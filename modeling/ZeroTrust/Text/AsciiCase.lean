/-
  `Text.AsciiCase` — letter case, for the ASCII letters alone.

  Mail addresses, server names and country codes are compared without regard to
  the case of the letters `A` to `Z`; every other character stands for itself.
-/
namespace ZeroTrust.Text

/-- A text with `A` to `Z` written small. -/
def lower (s : String) : String :=
  String.ofList (s.toList.map Char.toLower)

/-- A text with `a` to `z` written large. -/
def upper (s : String) : String :=
  String.ofList (s.toList.map Char.toUpper)

/-- Two texts that differ at most in the case of ASCII letters. -/
def sameIgnoringCase (s t : String) : Bool :=
  lower s == lower t

@[simp] theorem toList_lower (s : String) : (lower s).toList = s.toList.map Char.toLower := by
  simp [lower]

@[simp] theorem toList_upper (s : String) : (upper s).toList = s.toList.map Char.toUpper := by
  simp [upper]

theorem sameIgnoringCase_iff (s t : String) : sameIgnoringCase s t = true ↔ lower s = lower t := by
  simp [sameIgnoringCase]

end ZeroTrust.Text
