/-
  `Json.Parser` — reading a document.

  The grammar is that of JSON and nothing more: no comments, no trailing commas,
  no leading zeros, and of white space only the space, the tab, the line feed and
  the carriage return. A string literal is read in two steps. `pieces` finds its
  end and gives its characters and sixteen-bit escapes, and `textOfPieces` joins
  escapes that name the two halves of one character.

  The functions are total by a bound on the number of calls, which `parse?`
  chooses so that it never cuts a text short.
-/
import ZeroTrust.Json.Value
import ZeroTrust.Text.Hex

namespace ZeroTrust.Json.Parser

/-- White space between the tokens of a document. -/
def isSpace (c : Char) : Bool :=
  c == ' ' || c == '\t' || c == '\n' || c == '\r'

/-- The characters from the next token on. -/
def skipSpace (cs : List Char) : List Char :=
  cs.dropWhile isSpace

/-! ### Strings -/

/-- A part of a string literal: a character, or a sixteen-bit number given by an escape. -/
inductive Piece where
  | char (c : Char)
  | unit (n : Nat)
  deriving Repr, DecidableEq

/-- The character that a backslash and a letter or mark stand for. -/
def shortEscape? : Char → Option Char
  | '"' => some '"'
  | '\\' => some '\\'
  | '/' => some '/'
  | 'b' => some '\x08'
  | 'f' => some '\x0c'
  | 'n' => some '\n'
  | 'r' => some '\r'
  | 't' => some '\t'
  | _ => none

/-- The pieces of a string literal after its opening quote, and what follows its closing quote;
`found` holds, last first, the pieces before. -/
def pieces (found : List Piece) : List Char → Option (List Piece × List Char)
  | [] => none
  | '"' :: rest => some (found.reverse, rest)
  | '\\' :: 'u' :: a :: b :: c :: d :: rest =>
    match Text.hexDigits? [a, b, c, d] with
    | some n => pieces (.unit n :: found) rest
    | none => none
  | '\\' :: c :: rest =>
    match shortEscape? c with
    | some e => pieces (.char e :: found) rest
    | none => none
  | c :: rest => if c = '\\' ∨ c.toNat < 0x20 then none else pieces (.char c :: found) rest

/-- A number in the upper half of the surrogates, the one that comes first. -/
def isLeading (n : Nat) : Bool :=
  0xD800 ≤ n && n < 0xDC00

/-- A number in the lower half of the surrogates, the one that comes second. -/
def isTrailing (n : Nat) : Bool :=
  0xDC00 ≤ n && n < 0xE000

/-- The text of some pieces, or `none` when a surrogate stands alone. -/
def textOfPieces : List Piece → Option (List Char)
  | [] => some []
  | .char c :: rest => (textOfPieces rest).map (c :: ·)
  | .unit m :: .unit n :: rest =>
    if isLeading m && isTrailing n then
      (textOfPieces rest).map
        (Char.ofNat (0x10000 + (m - 0xD800) * 0x400 + (n - 0xDC00)) :: ·)
    else if isLeading m || isTrailing m then none
    else (textOfPieces (.unit n :: rest)).map (Char.ofNat m :: ·)
  | .unit m :: rest =>
    if isLeading m || isTrailing m then none
    else (textOfPieces rest).map (Char.ofNat m :: ·)

/-- A string literal after its opening quote: its text, if it has one, and what follows. -/
def stringLiteral (cs : List Char) : Option (Option String × List Char) :=
  (pieces [] cs).map fun (ps, rest) => ((textOfPieces ps).map String.ofList, rest)

/-! ### Numbers -/

/-- The digits at the front. -/
def leadingDigits (cs : List Char) : List Char :=
  cs.takeWhile Char.isDigit

/-- What follows the digits at the front. -/
def afterDigits (cs : List Char) : List Char :=
  cs.dropWhile Char.isDigit

/-- The number that some digits write; no digits write zero. -/
def natOfDigits (cs : List Char) : Nat :=
  Nat.ofDigitChars 10 cs 0

/-- The integer with a sign and a size. -/
def withSign (negative : Bool) (n : Nat) : Int :=
  if negative then -(n : Int) else n

/-- The digits after a point, if there is a point, and what follows. -/
def fraction? : List Char → Option (Option (List Char) × List Char)
  | '.' :: cs =>
    if (leadingDigits cs).isEmpty then none else some (some (leadingDigits cs), afterDigits cs)
  | cs => some (none, cs)

/-- An exponent after its letter, and what follows. -/
def exponentDigits? (negative : Bool) (cs : List Char) : Option (Option Int × List Char) :=
  if (leadingDigits cs).isEmpty then none
  else some (some (withSign negative (natOfDigits (leadingDigits cs))), afterDigits cs)

/-- An exponent, if there is one, and what follows. -/
def exponent? : List Char → Option (Option Int × List Char)
  | c :: cs =>
    if c = 'e' ∨ c = 'E' then
      match cs with
      | '-' :: cs => exponentDigits? true cs
      | '+' :: cs => exponentDigits? false cs
      | cs => exponentDigits? false cs
    else some (none, c :: cs)
  | [] => some (none, [])

/-- A number without its sign, and what follows. -/
def unsigned (negative : Bool) (cs : List Char) : Option (Json × List Char) := do
  let whole := leadingDigits cs
  guard !(whole.isEmpty || (whole.length > 1 && whole.head? == some '0'))
  let (fraction, cs) ← fraction? (afterDigits cs)
  let (exponent, cs) ← exponent? cs
  match fraction, exponent with
  | none, none =>
    -- No integer is a negative zero, so `-0` is kept as a decimal.
    if negative && natOfDigits whole == 0 then some (.decimal 0 0, cs)
    else some (.int (withSign negative (natOfDigits whole)), cs)
  | fraction, exponent =>
    let places := fraction.getD []
    some (.decimal (withSign negative (natOfDigits (whole ++ places)))
      (exponent.getD 0 - places.length), cs)

/-- A number at the front, and what follows. -/
def number : List Char → Option (Json × List Char)
  | '-' :: cs => unsigned true cs
  | cs => unsigned false cs

/-! ### Documents -/

mutual

/-- The document at the front, after white space, and what follows. -/
def value : Nat → List Char → Option (Json × List Char)
  | 0, _ => none
  | bound + 1, cs =>
    match skipSpace cs with
    | 'n' :: 'u' :: 'l' :: 'l' :: rest => some (.null, rest)
    | 't' :: 'r' :: 'u' :: 'e' :: rest => some (.bool true, rest)
    | 'f' :: 'a' :: 'l' :: 's' :: 'e' :: rest => some (.bool false, rest)
    | '"' :: rest => (stringLiteral rest).map fun (text, rest) => (.str text, rest)
    | '[' :: rest =>
      match skipSpace rest with
      | ']' :: rest => some (.arr [], rest)
      | rest => (items bound rest).map fun (vs, rest) => (.arr vs, rest)
    | '{' :: rest =>
      match skipSpace rest with
      | '}' :: rest => some (.obj [], rest)
      | rest => (members bound rest).map fun (ms, rest) => (.obj ms, rest)
    | rest => number rest

/-- The items of an array, at least one, up to its end, and what follows. -/
def items : Nat → List Char → Option (List Json × List Char)
  | 0, _ => none
  | bound + 1, cs => do
    let (v, rest) ← value bound cs
    match skipSpace rest with
    | ',' :: rest => (items bound rest).map fun (vs, rest) => (v :: vs, rest)
    | ']' :: rest => some ([v], rest)
    | _ => none

/-- The members of an object, at least one, up to its end, and what follows. -/
def members : Nat → List Char → Option (List (Option String × Json) × List Char)
  | 0, _ => none
  | bound + 1, cs =>
    match skipSpace cs with
    | '"' :: rest => do
      let (name, rest) ← stringLiteral rest
      match skipSpace rest with
      | ':' :: rest =>
        let (v, rest) ← value bound rest
        match skipSpace rest with
        | ',' :: rest => (members bound rest).map fun (ms, rest) => ((name, v) :: ms, rest)
        | '}' :: rest => some ([(name, v)], rest)
        | _ => none
      | _ => none
    | _ => none

end

end Parser

/-- The document that a text writes. -/
def parse? (s : String) : Option Json :=
  let cs := s.toList
  match Parser.value (2 * cs.length + 2) cs with
  | some (v, rest) => if (Parser.skipSpace rest).isEmpty then some v else none
  | none => none

end ZeroTrust.Json
