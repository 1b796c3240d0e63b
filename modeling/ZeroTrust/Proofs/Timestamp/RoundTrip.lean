/-
  `Proofs.Timestamp.RoundTrip` — a written moment is read back.

  A moment is written as numbers of fixed width with marks between them. Reading
  takes the numbers and marks off the front, one after another: a number with zeros
  in front is read up to its width (`number_padded`), and a year outside 0 to 9999
  has a sign and is read up to the next mark (`year_showYear`). The fraction has the
  fewest groups of three digits that lose nothing, so it gives the nanoseconds back
  (`fraction_showFraction`). The zone is that of universal time, so neither the date
  nor the time of day moves. Hence every moment is read from its text
  (`parse?_toString`).
-/
import Mathlib.Algebra.Group.Nat.Defs
import ZeroTrust.Proofs.Except
import ZeroTrust.Timestamp.Parser

namespace ZeroTrust

namespace Text

/-! ### Numbers of fixed width -/

theorem toList_padded (width n : Nat) :
    (padded width n).toList =
      List.replicate (width - (Nat.toDigits 10 n).length) '0' ++ Nat.toDigits 10 n := by
  rw [padded, String.toList_ofList]

theorem isDigit_of_mem_padded {width n : Nat} {c : Char} (h : c ∈ (padded width n).toList) :
    c.isDigit = true := by
  rw [toList_padded, List.mem_append] at h
  rcases h with h | h
  · rw [(List.mem_replicate.1 h).2]
    decide
  · exact isDigit_of_mem_toDigits h

theorem padded_ne_nil (width n : Nat) : (padded width n).toList ≠ [] := by
  rw [toList_padded]
  simp [Nat.toDigits_ne_nil]

/-- A number that fits is written with its width. -/
theorem length_padded {width n : Nat} (hwidth : 0 < width) (h : n < 10 ^ width) :
    (padded width n).toList.length = width := by
  have hlength : (Nat.toDigits 10 n).length ≤ width :=
    (Nat.length_toDigits_le_iff (by decide) hwidth).2 h
  rw [toList_padded, List.length_append, List.length_replicate]
  omega

/-- Zeros in front do not change a number. -/
theorem digits?_padded (width n : Nat) : digits? (padded width n).toList = some n := by
  have hall : (padded width n).toList.all Char.isDigit = true :=
    List.all_eq_true.2 fun c hc => isDigit_of_mem_padded hc
  have hempty : (padded width n).toList.isEmpty = false :=
    List.isEmpty_eq_false_iff.2 (padded_ne_nil width n)
  rw [digits?, hall, hempty, toList_padded, Nat.ofDigitChars_append,
    Nat.ofDigitChars_replicate_zero, Nat.mul_zero, Nat.ofDigitChars_ten_toDigits]
  rfl

/-- No digit is blank. -/
theorem isBlank_of_isDigit {c : Char} (h : c.isDigit = true) : isBlank c = false := by
  have hrange : 48 ≤ c.toNat ∧ c.toNat ≤ 57 := Char.isDigit_iff_toNat.1 h
  rw [← Bool.not_eq_true, isBlank]
  simp
  omega

theorem dropBlank_cons {c : Char} (h : isBlank c = false) (cs : List Char) :
    dropBlank (c :: cs) = c :: cs := by
  simp [dropBlank, h]

/-- Blanks are not looked for inside a number. -/
theorem dropBlank_padded_append (width n : Nat) (rest : List Char) :
    dropBlank ((padded width n).toList ++ rest) = (padded width n).toList ++ rest := by
  obtain ⟨c, cs, hcs⟩ := List.exists_cons_of_ne_nil (padded_ne_nil width n)
  have hc : c.isDigit = true := isDigit_of_mem_padded (by rw [hcs]; exact List.mem_cons_self)
  rw [hcs, List.cons_append, dropBlank_cons (isBlank_of_isDigit hc)]

end Text

namespace Timestamp.Parser

open Text

/-! ### Numbers and marks -/

/-- Digits are told from what follows them. -/
theorem takeWhile_padded_append {width n : Nat} {rest : List Char}
    (h : ∀ c ∈ rest.head?, c.isDigit = false) :
    ((padded width n).toList ++ rest).takeWhile Char.isDigit = (padded width n).toList ∧
      ((padded width n).toList ++ rest).dropWhile Char.isDigit = rest := by
  have hdigits : ∀ c ∈ (padded width n).toList, c.isDigit = true :=
    fun c hc => isDigit_of_mem_padded hc
  rw [List.takeWhile_append_of_pos hdigits, List.dropWhile_append_of_pos hdigits]
  cases rest with
  | nil => simp
  | cons c rest => simp [h c rfl]

/-- **A number of fixed width is read back**, and what follows it is left. -/
theorem number_padded {width n : Nat} (hwidth : 0 < width) (h : n < 10 ^ width)
    (rest : List Char) : number width ((padded width n).toList ++ rest) = some (n, rest) := by
  have hlength := length_padded hwidth h
  have htake : ((padded width n).toList ++ rest).take width = (padded width n).toList := by
    rw [List.take_append_of_le_length (by omega), List.take_of_length_le (by omega)]
  have hdigits : (padded width n).toList.takeWhile Char.isDigit = (padded width n).toList := by
    rw [← List.append_nil (padded width n).toList]
    exact (takeWhile_padded_append (by simp)).1.trans (List.append_nil _).symm
  rw [number, dropBlank_padded_append, htake, hdigits, digits?_padded, Option.map_some,
    List.drop_left]

theorem mark_cons {m : Char} (h : isBlank m = false) (rest : List Char) :
    mark m (m :: rest) = some rest := by
  rw [mark, dropBlank_cons h]
  simp

/-! ### Years -/

/-- All digits of a signed year are read. -/
theorem unlimited_padded_append (n : Nat) (rest : List Char) :
    year.unlimited ((padded 4 n).toList ++ '-' :: rest) = some (n, '-' :: rest) := by
  obtain ⟨htake, hdrop⟩ := @takeWhile_padded_append 4 n ('-' :: rest) (by simp)
  rw [year.unlimited, htake, hdrop, digits?_padded, Option.map_some]

theorem year_minus (cs : List Char) :
    year ('-' :: cs) = (year.unlimited cs).map fun (n, rest) => (-(n : Int), rest) := by
  rw [year, dropBlank_cons (by decide)]
  rfl

theorem year_plus (cs : List Char) :
    year ('+' :: cs) = (year.unlimited cs).map fun (n, rest) => ((n : Int), rest) := by
  rw [year, dropBlank_cons (by decide)]
  rfl

/-- **A written year is read back**, up to the mark that follows. -/
theorem year_showYear (y : Int) (rest : List Char) :
    year ((Date.showYear y).toList ++ '-' :: rest) = some (y, '-' :: rest) := by
  rw [Date.showYear]
  split
  case isTrue h =>
    have hnumber : number 4 ((padded 4 y.toNat).toList ++ '-' :: rest) =
        some (y.toNat, '-' :: rest) := number_padded (by decide) (by omega) _
    -- A year of four digits has no sign.
    obtain ⟨c, cs, hcs⟩ := List.exists_cons_of_ne_nil (padded_ne_nil 4 y.toNat)
    have hc : c.isDigit = true := isDigit_of_mem_padded (by rw [hcs]; exact List.mem_cons_self)
    have hsign : c ≠ '-' ∧ c ≠ '+' := by
      constructor <;> rintro rfl <;> exact absurd hc (by decide)
    rw [year, dropBlank_padded_append]
    rw [hcs, List.cons_append] at hnumber ⊢
    split
    · simp_all
    · simp_all
    · rw [hnumber, Option.map_some, Option.some.injEq, Prod.mk.injEq]
      exact ⟨Int.toNat_of_nonneg h.1, rfl⟩
  case isFalse h =>
    split
    case isTrue hneg =>
      have habs : -(y.natAbs : Int) = y := by omega
      rw [String.toList_append, List.append_assoc, show "-".toList = ['-'] by decide,
        List.cons_append, List.nil_append, year_minus, unlimited_padded_append, Option.map_some]
      simp only [habs]
    case isFalse hneg =>
      have habs : (y.natAbs : Int) = y := by omega
      rw [String.toList_append, List.append_assoc, show "+".toList = ['+'] by decide,
        List.cons_append, List.nil_append, year_plus, unlimited_padded_append, Option.map_some]
      simp only [habs]

/-! ### Fractions -/

/-- A fraction of at most nine digits is read as nanoseconds. -/
theorem fraction_point_padded {width n : Nat} (hwidth : 0 < width) (hnine : width ≤ 9)
    (h : n < 10 ^ width) (rest : List Char) :
    fraction (("." ++ padded width n).toList ++ 'Z' :: rest) =
      some (n * 10 ^ (9 - width), 'Z' :: rest) := by
  have hlength := length_padded hwidth h
  obtain ⟨htake, -⟩ := @takeWhile_padded_append width n ('Z' :: rest) (by simp)
  have hkept : (padded width n).toList.take 9 = (padded width n).toList :=
    List.take_of_length_le (by omega)
  rw [String.toList_append, List.append_assoc, show ".".toList = ['.'] by decide,
    List.cons_append, List.nil_append, fraction, htake, hkept, digits?_padded]
  simp [hlength]

/-- **A written fraction is read back.** -/
theorem fraction_showFraction {n : Nat} (h : n < 1000000000) (rest : List Char) :
    fraction ((showFraction n).toList ++ 'Z' :: rest) = some (n, 'Z' :: rest) := by
  rw [showFraction]
  split
  case isTrue hzero =>
    rw [hzero]
    rfl
  split
  case isTrue hmillion =>
    have hn : n / 1000000 * 10 ^ (9 - 3) = n := by omega
    show fraction (("." ++ padded 3 (n / 1000000)).toList ++ 'Z' :: rest) = _
    rw [fraction_point_padded (by decide) (by decide) (by omega), hn]
  split
  case isTrue hthousand =>
    have hn : n / 1000 * 10 ^ (9 - 6) = n := by omega
    show fraction (("." ++ padded 6 (n / 1000)).toList ++ 'Z' :: rest) = _
    rw [fraction_point_padded (by decide) (by decide) (by omega), hn]
  case isFalse =>
    show fraction (("." ++ padded 9 n).toList ++ 'Z' :: rest) = _
    rw [fraction_point_padded (by decide) (by decide) h, Nat.sub_self, Nat.pow_zero, Nat.mul_one]

/-- A date comes with bounds for what is written of it. -/
theorem month_lt_and_day_lt (d : Date) : d.month < 100 ∧ d.day < 100 := by
  have hvalid := d.valid
  have hdays : daysIn d.year d.month ≤ 31 := by
    rw [daysIn]
    grind
  simp only [isDate, Bool.and_eq_true, decide_eq_true_eq] at hvalid
  omega

end Timestamp.Parser

namespace Timestamp

open Text ZeroTrust.Timestamp.Parser

/-- The characters of a written moment. -/
theorem toList_toString (t : Timestamp) :
    (toString t).toList = (Date.showYear t.date.year).toList ++ '-' ::
      ((padded 2 t.date.month).toList ++ '-' :: ((padded 2 t.date.day).toList ++ 'T' ::
        ((padded 2 t.hour).toList ++ ':' :: ((padded 2 t.minute).toList ++ ':' ::
          ((padded 2 t.second).toList ++ ((showFraction t.nanosecond).toList ++ ['Z'])))))) := by
  show ((Date.showYear t.date.year ++ "-" ++ padded 2 t.date.month ++ "-" ++ padded 2 t.date.day) ++
    "T" ++ (padded 2 t.hour ++ ":" ++ padded 2 t.minute ++ ":" ++ padded 2 t.second) ++
    showFraction t.nanosecond ++ "Z").toList = _
  simp [String.toList_append]

/-- **A written moment is read back.** -/
theorem parse?_toString (t : Timestamp) : parse? (toString t) = some t := by
  obtain ⟨date, hour, minute, second, nanosecond, hvalid⟩ := t
  obtain ⟨hmonth, hday⟩ := month_lt_and_day_lt date
  have hbounds := hvalid
  simp only [isTimeOfDay, Bool.and_eq_true, decide_eq_true_eq] at hbounds
  obtain ⟨⟨⟨hhour, hminute⟩, hsecond⟩, hnanosecond⟩ := hbounds
  have hnumber : ∀ {n : Nat}, n < 100 → ∀ rest,
      number 2 ((padded 2 n).toList ++ rest) = some (n, rest) :=
    fun h rest => number_padded (by decide) h rest
  have hdash : ∀ rest, mark '-' ('-' :: rest) = some rest := mark_cons (by decide)
  have hcolon : ∀ rest, mark ':' (':' :: rest) = some rest := mark_cons (by decide)
  have hzone : zone (dropBlank ['Z']) = some (0, []) := by decide
  have huniversal : toUniversal date (hour * 60 + minute) 0 = some (date, hour * 60 + minute) := by
    rw [toUniversal]
    simp only [Int.sub_zero]
    rw [if_neg (by omega), if_pos (by omega), Int.toNat_natCast]
  rw [parse?, toList_toString]
  -- The date.
  refine bind_of_eq_some (year_showYear _ _) ?_
  refine bind_of_eq_some (hdash _) (bind_of_eq_some (hnumber hmonth _) ?_)
  refine bind_of_eq_some (hdash _) (bind_of_eq_some (hnumber hday _) ?_)
  -- The time of day.
  refine (if_pos (.inl rfl)).trans (bind_of_eq_some rfl ?_)
  refine bind_of_eq_some (hnumber (show hour < 100 by omega) _) ?_
  refine bind_of_eq_some (hcolon _) (bind_of_eq_some (hnumber (show minute < 100 by omega) _) ?_)
  refine bind_of_eq_some (hcolon _) (bind_of_eq_some (hnumber (show second < 100 by omega) _) ?_)
  refine bind_of_eq_some (fraction_showFraction hnanosecond _) ?_
  -- The zone, after which nothing follows.
  refine bind_of_eq_some hzone (bind_of_eq_some rfl ?_)
  refine bind_of_eq_some (dif_pos date.valid) (bind_of_eq_some (if_pos hvalid) ?_)
  refine bind_of_eq_some huniversal ?_
  have hhour : (hour * 60 + minute) / 60 = hour := by omega
  have hminute : (hour * 60 + minute) % 60 = minute := by omega
  show ofParts? date ((hour * 60 + minute) / 60) ((hour * 60 + minute) % 60) second nanosecond = _
  rw [hhour, hminute, ofParts?, dif_pos hvalid]

end Timestamp

end ZeroTrust
