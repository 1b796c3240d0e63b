/-
  `Text.Binary64` — which decimal numbers a binary64 can hold.

  A number `mantissa · 10 ^ exponent` overflows the format in one of two ways,
  depending on how it is computed. Computed at once, it overflows when its nearest
  value lies past the greatest finite one. Computed in steps, it is a product: of
  its leading digits, as many as sixty-four bits hold, and of a power of ten, each
  rounded to the format. A number next to the greatest finite one may overflow in
  one way and not in the other.
-/
namespace ZeroTrust.Text

/-- The least number that rounds to more than every finite binary64. -/
def binary64Bound : Nat :=
  1 <<< 1024 - 1 <<< 970

/-! ### At once -/

/-- Whether the number `mantissa · 10 ^ exponent` rounds to a finite binary64. -/
def fitsBinary64 (mantissa exponent : Int) : Bool :=
  let size := mantissa.natAbs
  let places := (Nat.toDigits 10 size).length + exponent
  if size = 0 ∨ places < 300 then true
  else if 310 < places then false
  else if 0 ≤ exponent then size * Nat.pow 10 exponent.toNat < binary64Bound
  else size < binary64Bound * Nat.pow 10 (-exponent).toNat

/-! ### In steps -/

/-- A whole number rounded to fifty-three binary digits; of two that are as near, the even one. -/
def roundToBinary64 (n : Nat) : Nat :=
  let unit := 1 <<< (n.log2 - 52)
  let down := n / unit
  let rest := n % unit
  if 2 * rest < unit ∨ (2 * rest = unit ∧ down % 2 = 0) then down * unit else (down + 1) * unit

/-- The leading digits of a number, as many as sixty-four bits hold, and how many follow them. -/
def leadingWord (n : Nat) : Nat × Nat :=
  if n < 0x10000000000000000 then (n, 0)
  else
    let (word, dropped) := leadingWord (n / 10)
    (word, dropped + 1)

/-- Whether the number `mantissa · 10 ^ exponent`, computed in steps, is a finite binary64. A
negative power of ten never makes a number overflow, and one past `10 ^ 308` always does. -/
def fitsBinary64InSteps (mantissa exponent : Int) : Bool :=
  let (word, dropped) := leadingWord mantissa.natAbs
  let exponent := exponent + dropped
  word = 0 ∨ exponent < 0 ∨
    (exponent ≤ 308 ∧
      roundToBinary64 word * roundToBinary64 (Nat.pow 10 exponent.toNat) < binary64Bound)

end ZeroTrust.Text
