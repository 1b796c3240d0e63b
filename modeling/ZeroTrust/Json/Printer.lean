/-
  `Json.Printer` — writing a document.

  `render` writes without any space. `pretty` puts each item and member on a line
  of its own, two spaces further in than its array or object, and writes empty
  ones as `[]` and `{}`. Both escape the same characters of a string: the quote, the
  backslash and those below the space, the latter by a short name where there is
  one and else by four hexadecimal digits.
-/
import ZeroTrust.Json.Value
import ZeroTrust.Text.Hex

namespace ZeroTrust.Json

/-! ### Strings -/

/-- One character as it stands in a string literal. -/
def escape (c : Char) : List Char :=
  if c = '"' then ['\\', '"']
  else if c = '\\' then ['\\', '\\']
  else if c = '\x08' then ['\\', 'b']
  else if c = '\x0c' then ['\\', 'f']
  else if c = '\n' then ['\\', 'n']
  else if c = '\r' then ['\\', 'r']
  else if c = '\t' then ['\\', 't']
  else if c.toNat < 0x20 then ['\\', 'u', '0', '0'] ++ (Text.hexByte c.toNat).toList
  else [c]

/-- A string literal; one without a text is spelled by a single surrogate. -/
def literal : Option String → List Char
  | some s => '"' :: s.toList.flatMap escape ++ ['"']
  | none => "\"\\ud800\"".toList

/-! ### Compact form -/

mutual

/-- The characters of a document in compact form. -/
def chars : Json → List Char
  | null => "null".toList
  | bool true => "true".toList
  | bool false => "false".toList
  | int n => (toString n).toList
  | decimal mantissa exponent => (toString mantissa).toList ++ 'e' :: (toString exponent).toList
  | str text => literal text
  | arr items => '[' :: charsItems items ++ [']']
  | obj members => '{' :: charsMembers members ++ ['}']

/-- Items between commas. -/
def charsItems : List Json → List Char
  | [] => []
  | [v] => v.chars
  | v :: vs => v.chars ++ ',' :: charsItems vs

/-- Members between commas. -/
def charsMembers : List (Option String × Json) → List Char
  | [] => []
  | [(name, v)] => literal name ++ ':' :: v.chars
  | (name, v) :: ms => literal name ++ ':' :: v.chars ++ ',' :: charsMembers ms

end

/-- The compact text of a document. -/
def render (v : Json) : String :=
  String.ofList v.chars

/-! ### Indented form -/

/-- A new line, indented to a level. -/
def newline (level : Nat) : List Char :=
  '\n' :: List.replicate (2 * level) ' '

mutual

/-- The characters of a document in indented form, inside arrays and objects of a given number. -/
def prettyChars (level : Nat) : Json → List Char
  | arr [] => "[]".toList
  | arr items => '[' :: prettyItems (level + 1) items ++ newline level ++ [']']
  | obj [] => ['{', '}']
  | obj members => '{' :: prettyMembers (level + 1) members ++ newline level ++ ['}']
  | null => "null".toList
  | bool b => (bool b).chars
  | int n => (int n).chars
  | decimal mantissa exponent => (decimal mantissa exponent).chars
  | str text => literal text

/-- Items on lines of their own. -/
def prettyItems (level : Nat) : List Json → List Char
  | [] => []
  | [v] => newline level ++ prettyChars level v
  | v :: vs => newline level ++ prettyChars level v ++ ',' :: prettyItems level vs

/-- Members on lines of their own. -/
def prettyMembers (level : Nat) : List (Option String × Json) → List Char
  | [] => []
  | [(name, v)] => newline level ++ literal name ++ ':' :: ' ' :: prettyChars level v
  | (name, v) :: ms =>
    newline level ++ literal name ++ ':' :: ' ' :: prettyChars level v ++
      ',' :: prettyMembers level ms

end

/-- The indented text of a document. -/
def pretty (v : Json) : String :=
  String.ofList (prettyChars 0 v)

end ZeroTrust.Json
