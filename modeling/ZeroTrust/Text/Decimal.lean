/-
  `Text.Decimal` — numbers written with decimal digits.

  Plain numbers are written by `toString`. Reading goes through
  `Nat.ofDigitChars`, which undoes it. `field?` reads a number of bounded width
  and size, the form that addresses, lengths of networks and the parts of a date
  have, and `padded` writes one of fixed width. `isUnsignedReal` tells the texts
  that write a number with a point or an exponent.
-/
namespace ZeroTrust.Text

/-- A number in decimal, padded with zeros on the left to a width. -/
def padded (width n : Nat) : String :=
  let digits := Nat.toDigits 10 n
  String.ofList (List.replicate (width - digits.length) '0' ++ digits)

/-- The number that some digits write, or `none` when there is none or another character. -/
def digits? (cs : List Char) : Option Nat :=
  if !cs.isEmpty && cs.all Char.isDigit then some (Nat.ofDigitChars 10 cs 0) else none

/-- The number that one to `width` digits write, when it is at most `limit`. -/
def field? (width limit : Nat) (cs : List Char) : Option Nat :=
  if cs.length ≤ width then (digits? cs).filter (· ≤ limit) else none

/-- The letter of an exponent, a sign or none, and at least one digit; or nothing at all. -/
def isExponent : List Char → Bool
  | [] => true
  | c :: cs =>
    let digits := match cs with
      | '+' :: ds | '-' :: ds => ds
      | ds => ds
    (c == 'e' || c == 'E') && (digits? digits).isSome

/-- A text that writes a number without a sign: digits with a point among them, at either end or
nowhere, and an exponent or none. -/
def isUnsignedReal (cs : List Char) : Bool :=
  let rest := cs.dropWhile Char.isDigit
  if cs.head?.any Char.isDigit then
    match rest with
    | '.' :: rest => isExponent (rest.dropWhile Char.isDigit)
    | rest => isExponent rest
  else
    match rest with
    | '.' :: rest => rest.head?.any Char.isDigit && isExponent (rest.dropWhile Char.isDigit)
    | _ => false

/-! ### Laws -/

theorem isDigit_of_mem_toDigits {n : Nat} {c : Char} (h : c ∈ Nat.toDigits 10 n) :
    c.isDigit = true :=
  Nat.isDigit_of_mem_toDigits (by decide) (by decide) h

/-- Reading what was written gives the number back. -/
@[simp] theorem digits?_toDigits (n : Nat) : digits? (Nat.toDigits 10 n) = some n := by
  have hall : (Nat.toDigits 10 n).all Char.isDigit = true :=
    List.all_eq_true.2 fun _ h => isDigit_of_mem_toDigits h
  simp [digits?, hall, Nat.ofDigitChars_toDigits]

end ZeroTrust.Text
