/-
  `Json.Value` — a JSON document as a value.

  Objects keep their members in order, repeated names included, and numbers keep
  what was written: an integer literal is an integer, and a literal with a
  fraction or an exponent is a mantissa with a power of ten. A string literal may
  spell an unpaired surrogate, which no text holds; such a literal has no text.
-/
namespace ZeroTrust

/-- A JSON document. -/
inductive Json where
  | null
  | bool (b : Bool)
  /-- A literal without fraction or exponent; `-0` is not one. -/
  | int (n : Int)
  /-- The number `mantissa · 10 ^ exponent`, written with a fraction or an exponent. -/
  | decimal (mantissa exponent : Int)
  /-- A string; its text is missing when the literal spells an unpaired surrogate. -/
  | str (text : Option String)
  | arr (items : List Json)
  /-- An object; names are string literals, so they may lack a text as well. -/
  | obj (members : List (Option String × Json))
  deriving Repr, BEq, Inhabited

namespace Json

/-- The string with a given text. -/
def text (s : String) : Json :=
  str (some s)

/-- The object with the given members. -/
def object (members : List (String × Json)) : Json :=
  obj (members.map fun (name, value) => (some name, value))

/-- The value, or `null` where there is none. -/
def ofOption (toJson : α → Json) : Option α → Json
  | none => null
  | some a => toJson a

/-- The array of the values of a list. -/
def ofList (toJson : α → Json) (items : List α) : Json :=
  arr (items.map toJson)

mutual

/-- How many arrays and objects lie inside one another at most. -/
def depth : Json → Nat
  | arr items => 1 + depthItems items
  | obj members => 1 + depthMembers members
  | _ => 0

/-- The greatest depth among some items. -/
def depthItems : List Json → Nat
  | [] => 0
  | v :: vs => max v.depth (depthItems vs)

/-- The greatest depth among some members. -/
def depthMembers : List (Option String × Json) → Nat
  | [] => 0
  | (_, v) :: ms => max v.depth (depthMembers ms)

end

end Json

end ZeroTrust
