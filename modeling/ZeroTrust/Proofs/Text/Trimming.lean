/-
  `Proofs.Text.Trimming` — what trimming does to a text, and to one in small letters.

  A text without blanks is its own trimmed form, trimming twice trims no more, and
  trimming goes past a change of letter case (`trim_eq_self`, `trim_trim`,
  `trim_lower`). A text is blank exactly when nothing is left of it
  (`isBlankText_iff`).

  All of it rests on where a character lies: `toNat_toLower` and `toNat_toUpper` say
  what a change of case does to the code point, and no letter is blank. In capitals
  it does not show whether a text was written small before (`upper_lower`).
-/
import Mathlib.Data.List.TakeWhile
import ZeroTrust.Text.AsciiCase
import ZeroTrust.Text.Blank

namespace ZeroTrust.Text

/-! ### Characters -/

/-- The code point of a small letter lies thirty-two past that of its capital; any other character
keeps its own. -/
theorem toNat_toLower (c : Char) :
    c.toLower.toNat = if 65 ≤ c.toNat ∧ c.toNat ≤ 90 then c.toNat + 32 else c.toNat := by
  delta Char.toLower
  split
  case isTrue h =>
    have hrange : 65 ≤ c.toNat ∧ c.toNat ≤ 90 := by
      simpa [UInt32.le_iff_toNat_le] using h
    simp only [hrange, and_self, if_true]
    show (c.val + 32).toNat = c.val.toNat + 32
    have hle : c.val.toNat ≤ 90 := hrange.2
    rw [UInt32.toNat_add, show (32 : UInt32).toNat = 32 from rfl]
    omega
  case isFalse h =>
    have hrange : ¬ (65 ≤ c.toNat ∧ c.toNat ≤ 90) := by
      simpa [UInt32.le_iff_toNat_le] using h
    simp only [hrange, if_false]

/-- The code point of a capital lies thirty-two before that of its small letter; any other character
keeps its own. -/
theorem toNat_toUpper (c : Char) :
    c.toUpper.toNat = if 97 ≤ c.toNat ∧ c.toNat ≤ 122 then c.toNat - 32 else c.toNat := by
  delta Char.toUpper
  split
  case isTrue h =>
    have hrange : 97 ≤ c.toNat ∧ c.toNat ≤ 122 := by
      simpa [UInt32.le_iff_toNat_le] using h
    simp only [hrange, and_self, if_true]
    show (c.val + ('A'.val - 'a'.val)).toNat = c.val.toNat - 32
    have hle : 97 ≤ c.val.toNat ∧ c.val.toNat ≤ 122 := hrange
    -- Words wrap around, and going back by thirty-two is going on by the rest of a turn.
    rw [UInt32.toNat_add, show ('A'.val - 'a'.val).toNat = 4294967264 from rfl]
    omega
  case isFalse h =>
    have hrange : ¬ (97 ≤ c.toNat ∧ c.toNat ≤ 122) := by
      simpa [UInt32.le_iff_toNat_le] using h
    simp only [hrange, if_false]

@[simp] theorem toLower_toLower (c : Char) : c.toLower.toLower = c.toLower := by
  have hc := toNat_toLower c
  have hlower := toNat_toLower c.toLower
  apply Char.toNat_inj.1
  split at hc <;> split at hlower <;> omega

/-- A letter written small has the same capital. -/
@[simp] theorem toUpper_toLower (c : Char) : c.toLower.toUpper = c.toUpper := by
  have hlower := toNat_toLower c
  have hupper := toNat_toUpper c
  have hboth := toNat_toUpper c.toLower
  apply Char.toNat_inj.1
  split at hlower <;> split at hupper <;> split at hboth <;> omega

/-- No letter is blank, so a change of case makes no character blank and none visible. -/
@[simp] theorem isBlank_toLower (c : Char) : isBlank c.toLower = isBlank c := by
  rw [isBlank, isBlank, toNat_toLower]
  by_cases h : 65 ≤ c.toNat ∧ c.toNat ≤ 90
  · simp only [h, and_self, if_true]
    rw [Bool.eq_iff_iff]
    simp
    omega
  · simp only [h, if_false]

/-- A character that is no letter is written small only by itself. -/
theorem toLower_eq_iff {c d : Char} (h : ¬ (65 ≤ d.toNat ∧ d.toNat ≤ 122)) :
    c.toLower = d ↔ c = d := by
  rw [← Char.toNat_inj, ← Char.toNat_inj, toNat_toLower]
  split <;> omega

/-! ### Letter case of texts -/

theorem lower_eq_empty_iff (s : String) : lower s = "" ↔ s = "" := by
  rw [← String.toList_inj, toList_lower, ← String.toList_inj]
  simp

theorem lower_lower (s : String) : lower (lower s) = lower s := by
  apply String.toList_inj.1
  rw [toList_lower, toList_lower, List.map_map]
  exact List.map_congr_left fun c _ => toLower_toLower c

theorem upper_lower (s : String) : upper (lower s) = upper s := by
  apply String.toList_inj.1
  rw [toList_upper, toList_lower, toList_upper, List.map_map]
  exact List.map_congr_left fun c _ => toUpper_toLower c

/-! ### Blanks at the ends -/

theorem dropBlank_eq_self {cs : List Char} (h : ∀ c ∈ cs, isBlank c = false) :
    dropBlank cs = cs := by
  cases cs with
  | nil => rfl
  | cons c rest => simp [dropBlank, h c List.mem_cons_self]

@[simp] theorem dropBlankEnd_dropBlankEnd (cs : List Char) :
    dropBlankEnd (dropBlankEnd cs) = dropBlankEnd cs := by
  rw [dropBlankEnd, dropBlankEnd, List.reverse_reverse, dropBlank_dropBlank]

/-- What is left after the blanks at the end were dropped is a beginning of the text. -/
theorem dropBlankEnd_prefix (cs : List Char) : dropBlankEnd cs <+: cs := by
  have hsuffix : dropBlank cs.reverse <:+ cs.reverse := List.dropWhile_suffix isBlank
  simpa [dropBlankEnd] using List.reverse_prefix.2 hsuffix

/-- Dropping blanks at the end brings none to the front. -/
theorem dropBlank_dropBlankEnd_dropBlank (cs : List Char) :
    dropBlank (dropBlankEnd (dropBlank cs)) = dropBlankEnd (dropBlank cs) := by
  cases h : dropBlankEnd (dropBlank cs) with
  | nil => rfl
  | cons c rest =>
    -- The first character left is the first after the blanks in front.
    obtain ⟨rest', hrest⟩ := dropBlankEnd_prefix (dropBlank cs)
    rw [h, List.cons_append] at hrest
    have hc : isBlank c = false := not_isBlank_of_dropBlank_eq_cons hrest.symm
    simp [dropBlank, hc]

theorem dropBlank_map_toLower (cs : List Char) :
    dropBlank (cs.map Char.toLower) = (dropBlank cs).map Char.toLower := by
  have hblank : isBlank ∘ Char.toLower = isBlank := funext isBlank_toLower
  rw [dropBlank, List.dropWhile_map, hblank, dropBlank]

theorem dropBlankEnd_map_toLower (cs : List Char) :
    dropBlankEnd (cs.map Char.toLower) = (dropBlankEnd cs).map Char.toLower := by
  rw [dropBlankEnd, ← List.map_reverse, dropBlank_map_toLower, ← List.map_reverse, dropBlankEnd]

/-! ### Trimmed texts -/

@[simp] theorem toList_trim (s : String) : (trim s).toList = dropBlankEnd (dropBlank s.toList) := by
  simp [trim]

/-- A text without blanks is its own trimmed form. -/
theorem trim_eq_self {s : String} (h : ∀ c ∈ s.toList, isBlank c = false) : trim s = s := by
  have hreverse : ∀ c ∈ s.toList.reverse, isBlank c = false := by simpa using h
  apply String.toList_inj.1
  rw [toList_trim, dropBlank_eq_self h, dropBlankEnd, dropBlank_eq_self hreverse,
    List.reverse_reverse]

@[simp] theorem trim_trim (s : String) : trim (trim s) = trim s := by
  apply String.toList_inj.1
  rw [toList_trim, toList_trim, dropBlank_dropBlankEnd_dropBlank, dropBlankEnd_dropBlankEnd]

theorem trim_lower (s : String) : trim (lower s) = lower (trim s) := by
  apply String.toList_inj.1
  rw [toList_trim, toList_lower, toList_lower, toList_trim, dropBlank_map_toLower,
    dropBlankEnd_map_toLower]

/-- A text is blank exactly when trimming leaves nothing of it. -/
theorem isBlankText_iff (s : String) : isBlankText s = true ↔ trim s = "" := by
  rw [isBlankText, List.all_eq_true, ← String.toList_inj, toList_trim]
  constructor
  · intro h
    have hnil : dropBlank s.toList = [] := List.dropWhile_eq_nil_iff.2 h
    rw [hnil]
    rfl
  · intro h c hc
    have hend : ∀ d ∈ dropBlank s.toList, isBlank d = true := by
      have : dropBlank (dropBlank s.toList).reverse = [] := by
        simpa [dropBlankEnd] using h
      simpa using List.dropWhile_eq_nil_iff.1 this
    -- What is left in front of the end would start with no blank, so nothing is left.
    cases hfront : dropBlank s.toList with
    | nil => exact List.dropWhile_eq_nil_iff.1 hfront c hc
    | cons d rest =>
      have hd := hend d (by rw [hfront]; exact List.mem_cons_self)
      rw [not_isBlank_of_dropBlank_eq_cons hfront] at hd
      exact absurd hd Bool.false_ne_true

end ZeroTrust.Text
