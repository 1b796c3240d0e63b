/-
  `Tree.Document` — trees as JSON documents.

  A node of a document has an operator, a list of children and a condition, all of
  which may be missing or, the operator apart, `null`. A node with a condition is
  a leaf, whatever its operator. A node with neither is a branch without
  children. A node with both is refused, at any depth.
-/
import ZeroTrust.Tree.Basic

namespace ZeroTrust.Tree

mutual

/-- The document of a tree. A leaf carries an operator that readers ignore. -/
def toJson : Tree → Json
  | leaf c => .object [("operator", .text Connective.and.name), ("condition", c.toJson)]
  | branch o cs => .object [("operator", .text o.name), ("children", .arr (toJsonList cs))]

/-- The documents of some trees. -/
def toJsonList : List Tree → List Json
  | [] => []
  | t :: ts => toJson t :: toJsonList ts

end

theorem toJsonList_eq_map (ts : List Tree) : toJsonList ts = ts.map toJson := by
  induction ts with
  | nil => rfl
  | cons t ts ih => simp [toJsonList, ih]

/-- The tree of a node, given its parts. -/
def ofParts (connective : Connective) (children : Option (List Tree))
    (condition : Option Condition) : Except Json.ReadError Tree :=
  match condition, children with
  | some _, some _ => .error .leafAndBranch
  | some c, none => .ok (leaf c)
  | none, children => .ok (branch connective (children.getD []))

/-- Reads a node, given how its list of children is read. -/
def node (children : Json.Reader (List Tree)) : Json.Reader Tree := fun room v => do
  let (room, fields) ← Json.Reader.fields ["operator", "children", "condition"] room v
  let connective ← fields.withDefault "operator" .and (.word Connective.all Connective.name) room
  let children ← fields.optional "children" children room
  let condition ← fields.optional "condition" Condition.reader room
  ofParts connective children condition

/-- Reads a tree. Each node takes up one of the arrays and objects that may open, and its list of
children another, so that children are read with room for two less. -/
def reader : Json.Reader Tree
  | inside + 2, v => node (.list fun _ => reader inside) (inside + 2) v
  | room, v => node (fun _ _ => .error .unreadable) room v

/-- How a node is read depends on how its children are read with the room inside it. -/
theorem node_congr {children others : Json.Reader (List Tree)} {room : Nat}
    (h : ∀ v, children room v = others room v) (v : Json) :
    node children (room + 1) v = node others (room + 1) v := by
  have hnullable : Json.Reader.nullable children room = Json.Reader.nullable others room := by
    funext v
    cases v <;> simp only [Json.Reader.nullable, h]
  have hinside : ∀ fields : Json.Reader.Fields,
      fields.optional "children" children room = fields.optional "children" others room := by
    intro fields
    rw [Json.Reader.Fields.optional, Json.Reader.Fields.withDefault, hnullable]
    rfl
  cases v with
  | obj members =>
    rw [node, node, Json.Reader.fields]
    cases Json.Reader.knownMembers ["operator", "children", "condition"] members with
    | error e => rfl
    | ok fields =>
      simp only [bind, Except.bind, pure, Except.pure, hinside]
  | arr items =>
    rw [node, node, Json.Reader.fields]
    split
    · simp only [bind, Except.bind, hinside]
    · rfl
  | _ => rfl

/-- A tree is a node whose children are trees. -/
theorem reader_eq_node (room : Nat) (v : Json) : reader room v = node (.list reader) room v := by
  match room with
  | 0 => cases v <;> rfl
  | 1 =>
    rw [reader]
    · exact node_congr (fun v => by cases v <;> rfl) v
    · omega
  | inside + 2 =>
    rw [reader]
    exact node_congr (fun v => by cases v <;> rfl) v

end ZeroTrust.Tree
