/-
  `Editor.Basic` — editing a tree one step at a time.

  An edit is aimed at a node by the indices that lead to it from the root. The
  result is a new tree. An edit that fits its target nowhere (an index too large,
  a path through a leaf, an operator for a leaf) leaves the tree as it is.

  A child added to a leaf turns the leaf into a conjunction. Whether the leaf's
  own condition is kept as its first child is for the editor to say.
-/
import ZeroTrust.Editor.Patch
import ZeroTrust.Policy.Stage
import ZeroTrust.Tree.Basic

namespace ZeroTrust

/-- What becomes of a leaf to which a child is added. -/
inductive LeafConversion where
  /-- It becomes the first child. -/
  | wrap
  /-- It is dropped. -/
  | replace
  deriving DecidableEq, Repr

/-- One step of editing. -/
inductive Edit where
  | addCondition
  | addSubGroup
  | removeChild (index : Nat)
  | setConnective (connective : Connective)
  | setCondition (patch : Patch)
  deriving DecidableEq, Repr

/-- An editor for one family of policies. -/
structure Editor where
  /-- The stage of the policies, which decides what a new leaf asks about. -/
  stage : Option Stage
  conversion : LeafConversion
  deriving DecidableEq, Repr

namespace Editor

/-- The leaf that is added. -/
def defaultLeaf (e : Editor) : Tree :=
  .leaf (.default (e.stage.elim .user Stage.defaultKind))

/-- The group that is added. -/
def defaultGroup : Tree :=
  .branch .or []

/-- A tree with a child more. -/
def append (e : Editor) (child : Tree) : Tree → Tree
  | .branch o cs => .branch o (cs ++ [child])
  | .leaf c =>
    match e.conversion with
    | .wrap => .branch .and [.leaf c, child]
    | .replace => .branch .and [child]

/-- A tree without one of its children. -/
def removeChild (index : Nat) : Tree → Tree
  | .branch o cs => .branch o (cs.eraseIdx index)
  | .leaf c => .leaf c

/-- A tree with another connective at its root. -/
def setConnective (connective : Connective) : Tree → Tree
  | .branch _ cs => .branch connective cs
  | .leaf c => .leaf c

/-- A leaf with its condition patched. -/
def setCondition (patch : Patch) : Tree → Tree
  | .leaf c => .leaf (patch.apply c)
  | .branch o cs => .branch o cs

/-- The tree after an edit of its root. -/
def apply (e : Editor) (edit : Edit) (t : Tree) : Tree :=
  match edit with
  | .addCondition => e.append e.defaultLeaf t
  | .addSubGroup => e.append defaultGroup t
  | .removeChild index => removeChild index t
  | .setConnective connective => setConnective connective t
  | .setCondition patch => setCondition patch t

/-- The tree after an edit of the node that a path leads to. -/
def applyAt (e : Editor) (edit : Edit) : List Nat → Tree → Tree
  | [], t => e.apply edit t
  | _ :: _, .leaf c => .leaf c
  | i :: path, .branch o cs => .branch o (cs.modify i (applyAt e edit path))

/-! ### Events -/

/-- A path as it is reported. -/
def showPath (path : List Nat) : String :=
  "[" ++ ", ".intercalate (path.map toString) ++ "]"

/-- What is reported when an edit of the root is applied. -/
def events (edit : Edit) (t : Tree) : List Event :=
  match edit, t with
  | .removeChild index, .branch _ cs => if index < cs.length then [] else [unremoved index]
  | .removeChild index, .leaf _ => [unremoved index]
  | .setCondition patch, .leaf c => patch.events c
  | _, _ => []
where
  /-- Reports that there was no child to remove. -/
  unremoved (index : Nat) : Event :=
    ⟨.debug, .editor, "remove_child has no child at index; tree unchanged",
      [("index", .int index)]⟩

/-- What is reported when an edit is applied where a path leads. -/
def eventsAt (edit : Edit) : List Nat → Tree → List Event
  | [], t => events edit t
  | i :: path, .leaf _ => [unaddressed (i :: path)]
  | i :: path, .branch _ cs =>
    match cs[i]? with
    | some child => eventsAt edit path child
    | none => [unaddressed (i :: path)]
where
  /-- Reports that the rest of a path leads nowhere. -/
  unaddressed (path : List Nat) : Event :=
    ⟨.debug, .editor, "edit path does not address a node; tree unchanged",
      [("path", .text (showPath path))]⟩

end Editor

/-! ### Paths -/

/-- The node that a path leads to. -/
def Tree.at? : List Nat → Tree → Option Tree
  | [], t => some t
  | _ :: _, .leaf _ => none
  | i :: path, .branch _ cs => cs[i]?.bind (Tree.at? path)

end ZeroTrust
