/-
  `Text.Hex` — numbers written with hexadecimal digits.

  Digits are read in either case and written in lower case.
-/
namespace ZeroTrust.Text

/-- The worth of a hexadecimal digit. -/
def hexDigit? (c : Char) : Option Nat :=
  if c.isDigit then some (c.toNat - '0'.toNat)
  else if 'a' ≤ c ∧ c ≤ 'f' then some (c.toNat - 'a'.toNat + 10)
  else if 'A' ≤ c ∧ c ≤ 'F' then some (c.toNat - 'A'.toNat + 10)
  else none

/-- A character that is a hexadecimal digit. -/
def isHexDigit (c : Char) : Bool :=
  (hexDigit? c).isSome

/-- The number that some characters write, each digit worth sixteen of the next. -/
def ofHex (cs : List Char) : Nat :=
  cs.foldl (fun n c => 16 * n + (hexDigit? c).getD 0) 0

/-- The number that some hexadecimal digits write, or `none` when there is none or another
character. -/
def hexDigits? (cs : List Char) : Option Nat :=
  if !cs.isEmpty && cs.all isHexDigit then some (ofHex cs) else none

/-- A number in lower-case hexadecimal, without leading zeros. -/
def hex (n : Nat) : String :=
  String.ofList (Nat.toDigits 16 n)

/-- A number below 256 as two lower-case hexadecimal digits. -/
def hexByte (n : Nat) : String :=
  String.ofList [Nat.digitChar (n / 16 % 16), Nat.digitChar (n % 16)]

@[simp] theorem length_hexByte (n : Nat) : (hexByte n).length = 2 := by
  simp [hexByte]

end ZeroTrust.Text
