/-
  `Json.Reader` — values of a type, read from documents.

  A reader turns a document into a value or says that it cannot. It is handed the
  number of arrays and objects that may still open, so that a document nested too
  deeply is refused where the reader looks at it. Parts of a document that no
  reader looks at may hold anything and nest at will.

  Records are read from objects and, field by field in their order, from arrays.
  Of an object, members with other names are passed over, and a name of the
  record may stand once. In an array fields may be missing at the end.
-/
import ZeroTrust.Json.Parser

namespace ZeroTrust.Json

/-- Why no value could be read from a document. -/
inductive ReadError where
  /-- A part of the document has another form than its place asks for. -/
  | unreadable
  /-- A node of a condition tree has both a condition and children. -/
  | leafAndBranch
  deriving Repr, DecidableEq

/-- A value read from a document inside which so many arrays and objects may open. -/
abbrev Reader (α : Type) := Nat → Json → Except ReadError α

/-- The number of arrays and objects that may lie inside one another in a document. -/
def nestingLimit : Nat := 127

namespace Reader

/-! ### Simple values -/

/-- A string that has a text. -/
def text : Reader String
  | _, .str (some s) => .ok s
  | _, _ => .error .unreadable

/-- A truth value. -/
def bool : Reader Bool
  | _, .bool b => .ok b
  | _, _ => .error .unreadable

/-- An integer between two bounds, written as one. -/
def int (least greatest : Int) : Reader Int
  | _, .int n => if least ≤ n ∧ n ≤ greatest then .ok n else .error .unreadable
  | _, _ => .error .unreadable

/-- A natural number of at most sixty-four bits. -/
def nat : Reader Nat := fun room v =>
  Int.toNat <$> int 0 (UInt64.size - 1) room v

/-- What another reader reads, or nothing from `null`. -/
def nullable (read : Reader α) : Reader (Option α)
  | _, .null => .ok none
  | room, v => some <$> read room v

/-- A text that some reading of texts accepts. -/
def parsed (parse? : String → Option α) : Reader α := fun room v => do
  match parse? (← text room v) with
  | some a => return a
  | none => throw .unreadable

/-- One of some values, each known by a word. The word stands alone or names the only member of an
object, whose value is then `null`. -/
def word (values : List α) (name : α → String) : Reader α
  | _, .str (some s) => find s
  | _ + 1, .obj [(some s, .null)] => find s
  | _, _ => .error .unreadable
where
  /-- The value known by a word. -/
  find (s : String) : Except ReadError α :=
    match values.find? fun a => name a == s with
    | some a => .ok a
    | none => .error .unreadable

/-- The items of an array. -/
def list (read : Reader α) : Reader (List α)
  | room + 1, .arr items => items.mapM (read room)
  | _, _ => .error .unreadable

/-! ### Records -/

/-- The fields that a document gives, by name. -/
abbrev Fields := List (String × Json)

/-- The members of an object that a record knows. -/
def knownMembers (names : List String) :
    List (Option String × Json) → Except ReadError Fields
  | [] => .ok []
  | (none, _) :: _ => .error .unreadable
  | (some name, v) :: rest => do
    let fields ← knownMembers names rest
    if !names.contains name then return fields
    if fields.any fun field => field.1 == name then throw .unreadable
    return (name, v) :: fields

/-- The fields of a record, given its names in order, and the room inside it. -/
def fields (names : List String) : Nat → Json → Except ReadError (Nat × Fields)
  | room + 1, .obj members => do return (room, ← knownMembers names members)
  | room + 1, .arr items =>
    if items.length ≤ names.length then .ok (room, names.zip items) else .error .unreadable
  | _, _ => .error .unreadable

end Reader

namespace Reader.Fields

/-- A field that has to be given. -/
def required (fields : Fields) (name : String) (read : Reader α) (room : Nat) :
    Except ReadError α :=
  match fields.lookup name with
  | some v => read room v
  | none => .error .unreadable

/-- A field that has a value of its own when it is not given. -/
def withDefault (fields : Fields) (name : String) (default : α) (read : Reader α) (room : Nat) :
    Except ReadError α :=
  match fields.lookup name with
  | some v => read room v
  | none => .ok default

/-- A field that may be missing, or given as `null`. -/
def optional (fields : Fields) (name : String) (read : Reader α) (room : Nat) :
    Except ReadError (Option α) :=
  fields.withDefault name none (nullable read) room

end Reader.Fields

/-- The value that a reader reads from a text. -/
def Reader.run (read : Reader α) (s : String) : Except ReadError α :=
  match parse? s with
  | some v => read nestingLimit v
  | none => .error .unreadable

end ZeroTrust.Json
