/-
  `Toml.Scalar` — numbers, dates and times of a TOML document.

  A scalar is judged as a whole: the caller cuts out the longest run of characters
  that one may hold. Underscores may stand between digits. Integers have
  sixty-four bits, floats must not round to infinity from below it, and dates must
  be in the calendar. What number or moment is meant does not matter here.
-/
import ZeroTrust.Text.Binary64
import ZeroTrust.Text.Decimal
import ZeroTrust.Text.Hex
import ZeroTrust.Timestamp.Basic
import ZeroTrust.Toml.Value

namespace ZeroTrust.Toml

/-! ### Numbers -/

/-- The digits of a number without the underscores between them. -/
def ungrouped? (isDigit : Char → Bool) (cs : List Char) : Option (List Char) :=
  let groups := cs.splitOn '_'
  if groups.all fun g => !g.isEmpty && g.all isDigit then some groups.flatten else none

/-- A sign at the front: whether it is a minus, and what follows. -/
def cutSign : List Char → Bool × List Char
  | '-' :: cs => (true, cs)
  | '+' :: cs => (false, cs)
  | cs => (false, cs)

/-- A decimal number without leading zeros. -/
def decimalDigits? (cs : List Char) : Option (List Char) :=
  (ungrouped? Char.isDigit cs).filter fun digits => digits.length = 1 ∨ digits.head? ≠ some '0'

/-- The number that digits of a base of two, eight or sixteen write. -/
def natOfBase (base : Nat) (digits : List Char) : Nat :=
  digits.foldl (fun n c => base * n + (Text.hexDigit? c).getD 0) 0

/-- Whether a text is a number in a base of two, eight or sixteen, after its mark. -/
def isBased (base : Nat) (cs : List Char) : Bool :=
  (ungrouped? (fun c => (Text.hexDigit? c).any (· < base)) cs).any fun digits =>
    natOfBase base digits < 1 <<< 63

/-- Whether a text is an integer. -/
def isInteger : List Char → Bool
  | '0' :: 'x' :: cs => isBased 16 cs
  | '0' :: 'o' :: cs => isBased 8 cs
  | '0' :: 'b' :: cs => isBased 2 cs
  | cs =>
    let (negative, cs) := cutSign cs
    (decimalDigits? cs).any fun digits =>
      Nat.ofDigitChars 10 digits 0 < 1 <<< 63 + if negative then 1 else 0

/-- The digits after a point, none where there is no point. -/
def fractionDigits? : List Char → Option (List Char)
  | [] => some []
  | '.' :: cs => ungrouped? Char.isDigit cs
  | _ => none

/-- The exponent after its letter. -/
def exponentOf? (cs : List Char) : Option Int :=
  let (negative, cs) := cutSign cs
  (ungrouped? Char.isDigit cs).map fun digits =>
    let n : Int := Nat.ofDigitChars 10 digits 0
    if negative then -n else n

/-- Whether a text is a float. -/
def isFloat (cs : List Char) : Bool :=
  let (negative, cs) := cutSign cs
  if cs = "inf".toList ∨ cs = "nan".toList then true
  else
    let isMark := fun c => c == 'e' || c == 'E'
    let number := cs.takeWhile (!isMark ·)
    let exponent? : Option Int :=
      match cs.dropWhile (!isMark ·) with
      | [] => if number.contains '.' then some 0 else none
      | _ :: cs => exponentOf? cs
    match decimalDigits? (number.takeWhile (· != '.')),
      fractionDigits? (number.dropWhile (· != '.')), exponent? with
    | some whole, some places, some exponent =>
      negative || Text.fitsBinary64 (Nat.ofDigitChars 10 (whole ++ places) 0)
        (exponent - places.length)
    | _, _, _ => false

/-! ### Dates and times -/

/-- Whether a text is a date. -/
def isDateText (cs : List Char) : Bool :=
  match cs.splitOn '-' with
  | [year, month, day] =>
    year.length == 4 && month.length == 2 && day.length == 2 &&
      match Text.digits? year, Text.digits? month, Text.digits? day with
      | some year, some month, some day => isDate year month day
      | _, _, _ => false
  | _ => false

/-- Whether a text is two digits that write at most a number. -/
def isPair (limit : Nat) (cs : List Char) : Bool :=
  cs.length == 2 && (Text.field? 2 limit cs).isSome

/-- Whether a text is a second with an optional fraction. -/
def isSecond (cs : List Char) : Bool :=
  isPair 60 (cs.take 2) &&
    match cs.drop 2 with
    | [] => true
    | '.' :: digits => (Text.digits? digits).isSome
    | _ => false

/-- Whether a text is a time of day. -/
def isTime (cs : List Char) : Bool :=
  match cs.splitOn ':' with
  | [hour, minute, second] => isPair 23 hour && isPair 59 minute && isSecond second
  | _ => false

/-- Whether a text is a zone, given by hours and minutes after a sign. -/
def isOffset (cs : List Char) : Bool :=
  match cs.splitOn ':' with
  | [hour, minute] => isPair 23 hour && isPair 59 minute
  | _ => false

/-- Whether a text is a time of day with an optional zone. -/
def isZonedTime (cs : List Char) : Bool :=
  if cs.getLast? = some 'Z' ∨ cs.getLast? = some 'z' then isTime cs.dropLast
  else
    let time := cs.takeWhile fun c => c != '+' && c != '-'
    match cs.drop time.length with
    | [] => isTime time
    | _ :: offset => isTime time && isOffset offset

/-- Whether a text is a date, a time, or both. -/
def isDatetime (cs : List Char) : Bool :=
  isTime cs || isDateText cs ||
    (isDateText (cs.take 10) &&
      match cs.drop 10 with
      | c :: time => (c == 'T' || c == 't' || c == ' ') && isZonedTime time
      | [] => false)

/-- The value of a scalar that is no string. -/
def scalar? (cs : List Char) : Option Value :=
  if cs = "true".toList then some (.boolean true)
  else if cs = "false".toList then some (.boolean false)
  else if isDatetime cs then some .datetime
  else if isInteger cs || isFloat cs then some .number
  else none

example : (["1_000", "0xFF", "-0", "+1.5e-3", "inf", "1e9"].all fun s =>
    isInteger s.toList || isFloat s.toList) = true := by decide
example : (["01", "1__0", "_1", "1.", ".5", "0x", "+0x1", "1e"].any fun s =>
    isInteger s.toList || isFloat s.toList) = false := by decide
example : isDatetime "1979-05-27T07:32:00.5-07:00".toList = true := by decide

end ZeroTrust.Toml
