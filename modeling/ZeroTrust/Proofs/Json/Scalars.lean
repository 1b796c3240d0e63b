/-
  `Proofs.Json.Scalars` — strings and numbers are read back as they were written.

  Each character of a string is written as one piece of the literal, which stands for
  that character (`exists_piece_escape`). So the pieces of a literal give back its
  text, whatever follows the closing quote (`stringLiteral_literal`).

  A number ends where neither a digit nor a point nor the letter of an exponent
  follows (`EndsNumber`). The digits of a number have no zero in front
  (`head?_toDigits_ne_zero`), so what is written is accepted and is read as the same
  integer or decimal (`number_int`, `number_decimal`).
-/
import ZeroTrust.Json.Parser
import ZeroTrust.Json.Printer
import ZeroTrust.Proofs.Except
import ZeroTrust.Text.Decimal

namespace ZeroTrust.Json.Parser

/-! ### Strings -/

/-- A character below the space is told by two hexadecimal digits. -/
theorem hexDigits?_hexByte_of_lt {n : Nat} (h : n < 32) :
    Text.hexDigits? ('0' :: '0' :: (Text.hexByte n).toList) = some n := by
  -- There are so few numbers that each can be tried.
  have hall : ∀ n < 32, Text.hexDigits? ('0' :: '0' :: (Text.hexByte n).toList) = some n := by
    decide
  exact hall n h

/-- A number that is no half of a pair stands for its own character. -/
theorem textOfPieces_unit_cons {n : Nat} (h : n < 0xD800) (ps : List Piece) :
    textOfPieces (.unit n :: ps) = (textOfPieces ps).map (Char.ofNat n :: ·) := by
  have hleading : isLeading n = false := by simp [isLeading]; omega
  have htrailing : isTrailing n = false := by simp [isTrailing]; omega
  cases ps with
  | nil => simp [textOfPieces, hleading, htrailing]
  | cons p ps =>
    cases p with
    | char c => simp [textOfPieces, hleading, htrailing]
    | unit m => simp [textOfPieces, hleading, htrailing]

/-- How a character is written: by a short name, by its number, or as it is. -/
theorem escape_cases (c : Char) :
    (∃ e, e ≠ 'u' ∧ shortEscape? e = some c ∧ escape c = ['\\', e]) ∨
      (c.toNat < 0x20 ∧ escape c = '\\' :: 'u' :: '0' :: '0' :: (Text.hexByte c.toNat).toList) ∨
      (c ≠ '"' ∧ c ≠ '\\' ∧ 0x20 ≤ c.toNat ∧ escape c = [c]) := by
  -- Seven characters have short names, and none of these is the letter before a number.
  have hnamed : ∀ c ∈ ['"', '\\', '\x08', '\x0c', '\n', '\r', '\t'],
      ∃ e, e ≠ 'u' ∧ shortEscape? e = some c ∧ escape c = ['\\', e] := by
    simp only [List.forall_mem_cons]
    exact ⟨⟨'"', by decide⟩, ⟨'\\', by decide⟩, ⟨'b', by decide⟩, ⟨'f', by decide⟩,
      ⟨'n', by decide⟩, ⟨'r', by decide⟩, ⟨'t', by decide⟩, List.forall_mem_nil _⟩
  by_cases hshort : c ∈ ['"', '\\', '\x08', '\x0c', '\n', '\r', '\t']
  · exact .inl (hnamed c hshort)
  · simp only [List.mem_cons, List.not_mem_nil, or_false, not_or] at hshort
    obtain ⟨hquote, hslash, hb, hf, hn, hr, ht⟩ := hshort
    rw [escape]
    simp only [hquote, hslash, hb, hf, hn, hr, ht, if_false]
    split
    case isTrue hlow => exact .inr (.inl ⟨hlow, rfl⟩)
    case isFalse hlow => exact .inr (.inr ⟨hquote, hslash, Nat.not_lt.1 hlow, rfl⟩)

/-- **A written character is one piece of a literal**, which stands for the character. -/
theorem exists_piece_escape (c : Char) :
    ∃ piece, (∀ found rest, pieces found (escape c ++ rest) = pieces (piece :: found) rest) ∧
      ∀ ps, textOfPieces (piece :: ps) = (textOfPieces ps).map (c :: ·) := by
  rcases escape_cases c with
    ⟨e, hu, hshort, hescape⟩ | ⟨hlow, hescape⟩ | ⟨hquote, hslash, hhigh, hescape⟩
  · refine ⟨.char c, fun found rest => ?_, fun ps => by rw [textOfPieces]⟩
    rw [hescape, List.cons_append, List.cons_append, List.nil_append, pieces, hshort]
    exact fun _ _ _ _ _ h => absurd h hu
  · refine ⟨.unit c.toNat, fun found rest => ?_, fun ps => ?_⟩
    · have hhex := hexDigits?_hexByte_of_lt hlow
      rw [hescape, Text.hexByte, String.toList_ofList] at *
      simp [pieces, hhex]
    · rw [textOfPieces_unit_cons (Nat.lt_trans hlow (by decide)), Char.ofNat_toNat]
  · refine ⟨.char c, fun found rest => ?_, fun ps => by rw [textOfPieces]⟩
    have hplain : ¬ (c = '\\' ∨ c.toNat < 0x20) := by
      rintro (h | h)
      · exact hslash h
      · omega
    rw [hescape, List.cons_append, List.nil_append, pieces, if_neg hplain]
    all_goals simp_all

/-- The pieces of a written text stand for the text. -/
theorem exists_pieces_flatMap_escape (cs : List Char) :
    ∃ ps, (∀ found rest, pieces found (cs.flatMap escape ++ rest) =
        pieces (ps.reverse ++ found) rest) ∧ textOfPieces ps = some cs := by
  induction cs with
  | nil => exact ⟨[], fun found rest => rfl, rfl⟩
  | cons c cs ih =>
    obtain ⟨ps, hpieces, htext⟩ := ih
    obtain ⟨p, hpiece, hchar⟩ := exists_piece_escape c
    refine ⟨p :: ps, fun found rest => ?_, ?_⟩
    · rw [List.flatMap_cons, List.append_assoc, hpiece, hpieces, List.reverse_cons,
        List.append_assoc]
      rfl
    · rw [hchar, htext]
      rfl

/-- **A written string is read back**, and what follows it is left. -/
theorem exists_stringLiteral_literal (text : Option String) (rest : List Char) :
    ∃ body, literal text ++ rest = '"' :: body ∧ stringLiteral body = some (text, rest) := by
  cases text with
  | none =>
    -- The one literal without a text is a single surrogate.
    have hliteral : literal none = ['"', '\\', 'u', 'd', '8', '0', '0', '"'] := by decide
    have hhex : Text.hexDigits? ['d', '8', '0', '0'] = some 0xD800 := by decide
    refine ⟨'\\' :: 'u' :: 'd' :: '8' :: '0' :: '0' :: '"' :: rest, by rw [hliteral]; rfl, ?_⟩
    rw [stringLiteral, pieces, hhex]
    simp only [pieces]
    rfl
  | some s =>
    obtain ⟨ps, hpieces, htext⟩ := exists_pieces_flatMap_escape s.toList
    have hliteral : literal (some s) = '"' :: s.toList.flatMap escape ++ ['"'] := rfl
    refine ⟨s.toList.flatMap escape ++ '"' :: rest, by rw [hliteral]; simp, ?_⟩
    rw [stringLiteral, hpieces, pieces, List.append_nil, List.reverse_reverse]
    simp only [Option.map_some, htext, String.ofList_toList]

/-! ### Numbers -/

/-- The digits of a positive number do not start with zero. -/
theorem head?_toDigits_ne_zero {n : Nat} (h : 0 < n) : (Nat.toDigits 10 n).head? ≠ some '0' := by
  induction n using Nat.strongRecOn with
  | ind n ih =>
    by_cases hn : n < 10
    · have hall : ∀ n < 10, 0 < n → [Nat.digitChar n].head? ≠ some '0' := by decide
      rw [Nat.toDigits_of_lt_base hn]
      exact hall n hn h
    · -- The first digit is that of the quotient by ten.
      have hquotient : (Nat.toDigits 10 (n / 10)).head? ≠ some '0' :=
        ih (n / 10) (by omega) (by omega)
      rw [Nat.toDigits_of_base_le (by decide) (by omega), List.head?_append]
      cases hhead : (Nat.toDigits 10 (n / 10)).head? with
      | none => exact absurd (List.head?_eq_none_iff.1 hhead) Nat.toDigits_ne_nil
      | some d => rwa [hhead] at hquotient

/-- Digits are told from what ends a number. -/
theorem leadingDigits_toDigits_append (n : Nat) {rest : List Char}
    (h : ∀ c ∈ rest.head?, c.isDigit = false) :
    leadingDigits (Nat.toDigits 10 n ++ rest) = Nat.toDigits 10 n ∧
      afterDigits (Nat.toDigits 10 n ++ rest) = rest := by
  have hdigits : ∀ c ∈ Nat.toDigits 10 n, c.isDigit = true :=
    fun c hc => Text.isDigit_of_mem_toDigits hc
  rw [leadingDigits, afterDigits, List.takeWhile_append_of_pos hdigits,
    List.dropWhile_append_of_pos hdigits]
  cases rest with
  | nil => simp
  | cons c rest => simp [h c rfl]

/-- A whole number without its sign, up to the exponent that follows it. -/
theorem unsigned_toDigits_append (negative : Bool) {m : Nat} (hzero : negative = true → m ≠ 0)
    {tail rest : List Char} {exponent : Option Int}
    (htail : ∀ c ∈ tail.head?, c.isDigit = false ∧ c ≠ '.')
    (hexponent : exponent? tail = some (exponent, rest)) :
    unsigned negative (Nat.toDigits 10 m ++ tail) =
      some (exponent.elim (.int (withSign negative m)) (.decimal (withSign negative m)), rest) := by
  obtain ⟨hleading, hafter⟩ := leadingDigits_toDigits_append m fun c hc => (htail c hc).1
  have hempty : (Nat.toDigits 10 m).isEmpty = false := by simp [Nat.toDigits_ne_nil]
  -- Only zero itself is written with a zero in front.
  have hfront :
      ((Nat.toDigits 10 m).length > 1 && (Nat.toDigits 10 m).head? == some '0') = false := by
    cases m with
    | zero => decide
    | succ m => simp [head?_toDigits_ne_zero]
  have hvalue : natOfDigits (Nat.toDigits 10 m) = m := Nat.ofDigitChars_ten_toDigits
  have hfraction : fraction? tail = some (none, tail) := by
    cases tail with
    | nil => rfl
    | cons c tail => simp [fraction?, (htail c rfl).2]
  rw [unsigned, hleading, hafter, hempty, hfront]
  refine bind_of_eq_some rfl (bind_of_eq_some hfraction (bind_of_eq_some hexponent ?_))
  cases exponent with
  -- Without an exponent a sign before zero would make it no integer, but there is none.
  | none =>
    have hsign : (negative && m == 0) = false := by
      cases negative <;> simp_all
    simp [hvalue, hsign]
  | some n => simp [hvalue]

/-- An integer is written as its digits, after a sign where it is negative. -/
theorem toList_toString_int (n : Int) :
    (toString n).toList = (if n < 0 then ['-'] else []) ++ Nat.toDigits 10 n.natAbs := by
  rw [Int.toString_eq_repr, Int.repr_eq_if]
  by_cases h : n < 0
  · have habs : (-n).toNat = n.natAbs := by omega
    rw [if_neg (by omega), if_pos h, String.toList_append, Nat.toList_repr, habs]
    rfl
  · have habs : n.toNat = n.natAbs := by omega
    rw [if_pos (by omega), if_neg h, Nat.toList_repr, habs, List.nil_append]

/-- The digits of a number start with one. -/
theorem exists_toDigits_eq_cons (n : Nat) :
    ∃ d ds, Nat.toDigits 10 n = d :: ds ∧ d.isDigit = true := by
  obtain ⟨d, ds, hdigits⟩ := List.exists_cons_of_ne_nil (Nat.toDigits_ne_nil (n := n) (b := 10))
  exact ⟨d, ds, hdigits, Text.isDigit_of_mem_toDigits (by rw [hdigits]; exact List.mem_cons_self)⟩

/-- A digit is no sign. -/
theorem ne_sign_of_isDigit {d : Char} (h : d.isDigit = true) : d ≠ '-' ∧ d ≠ '+' := by
  constructor <;> rintro rfl <;> exact absurd h (by decide)

/-- An integer is made of its sign and its size. -/
theorem withSign_natAbs {negative : Bool} {n : Int} (h : negative = true ↔ n < 0) :
    withSign negative n.natAbs = n := by
  cases negative with
  | true =>
    have hneg : n < 0 := h.1 rfl
    show -(n.natAbs : Int) = n
    omega
  | false =>
    have hneg : ¬ n < 0 := fun hneg => Bool.noConfusion (h.2 hneg)
    show (n.natAbs : Int) = n
    omega

/-- A written number, up to the exponent that follows it. -/
theorem number_toString_append (n : Int) {tail rest : List Char} {exponent : Option Int}
    (htail : ∀ c ∈ tail.head?, c.isDigit = false ∧ c ≠ '.')
    (hexponent : exponent? tail = some (exponent, rest)) :
    number ((toString n).toList ++ tail) = some (exponent.elim (.int n) (.decimal n), rest) := by
  rw [toList_toString_int]
  split
  case isTrue hneg =>
    have hsign : withSign true n.natAbs = n := withSign_natAbs (iff_of_true rfl hneg)
    rw [List.append_assoc, List.cons_append, List.nil_append, number,
      unsigned_toDigits_append true (by omega) htail hexponent, hsign]
  case isFalse hneg =>
    have hsign : withSign false n.natAbs = n := withSign_natAbs (iff_of_false nofun hneg)
    -- Where a digit stands first, there is no sign to be taken off.
    obtain ⟨d, ds, hdigits, hd⟩ := exists_toDigits_eq_cons n.natAbs
    have hnumber : number (Nat.toDigits 10 n.natAbs ++ tail) =
        unsigned false (Nat.toDigits 10 n.natAbs ++ tail) := by
      rw [hdigits, List.cons_append, number]
      exact fun _ h => (ne_sign_of_isDigit hd).1 (List.cons.inj h).1
    rw [List.nil_append, hnumber, unsigned_toDigits_append false (by simp) htail hexponent, hsign]

/-- What follows a number does not go on with it. -/
def EndsNumber (rest : List Char) : Prop :=
  ∀ c ∈ rest.head?, c.isDigit = false ∧ c ≠ '.' ∧ c ≠ 'e' ∧ c ≠ 'E'

/-- **A written integer is read back**, and what follows it is left. -/
theorem number_int (n : Int) {rest : List Char} (hrest : EndsNumber rest) :
    number ((toString n).toList ++ rest) = some (.int n, rest) := by
  have hexponent : exponent? rest = some (none, rest) := by
    cases rest with
    | nil => rfl
    | cons c rest =>
      obtain ⟨-, -, he, hE⟩ := hrest c rfl
      simp [exponent?, he, hE]
  exact number_toString_append n (fun c hc => ⟨(hrest c hc).1, (hrest c hc).2.1⟩) hexponent

/-- A written exponent is read back, behind its letter. -/
theorem exponent?_toString (n : Int) {rest : List Char} (hrest : EndsNumber rest) :
    exponent? ('e' :: ((toString n).toList ++ rest)) = some (some n, rest) := by
  obtain ⟨hleading, hafter⟩ := leadingDigits_toDigits_append n.natAbs fun c hc => (hrest c hc).1
  have hempty : (Nat.toDigits 10 n.natAbs).isEmpty = false := by simp [Nat.toDigits_ne_nil]
  have hvalue : natOfDigits (Nat.toDigits 10 n.natAbs) = n.natAbs := Nat.ofDigitChars_ten_toDigits
  have hread : ∀ negative, exponentDigits? negative (Nat.toDigits 10 n.natAbs ++ rest) =
      some (some (withSign negative n.natAbs), rest) := by
    intro negative
    rw [exponentDigits?, hleading, hafter, hempty, hvalue]
    rfl
  rw [toList_toString_int]
  split
  case isTrue hneg =>
    have hsign : withSign true n.natAbs = n := withSign_natAbs (iff_of_true rfl hneg)
    simp [exponent?, hread, hsign]
  case isFalse hneg =>
    have hsign : withSign false n.natAbs = n := withSign_natAbs (iff_of_false nofun hneg)
    -- The reader looks for a sign first, so the first digit has to show that there is none.
    obtain ⟨d, ds, hdigits, hd⟩ := exists_toDigits_eq_cons n.natAbs
    have hfalse := hread false
    rw [hdigits, hsign] at hfalse
    rw [hdigits]
    simpa [exponent?, ne_sign_of_isDigit hd] using hfalse

/-- **A written decimal is read back**, and what follows it is left. -/
theorem number_decimal (mantissa n : Int) {rest : List Char} (hrest : EndsNumber rest) :
    number ((toString mantissa).toList ++ 'e' :: ((toString n).toList ++ rest)) =
      some (.decimal mantissa n, rest) :=
  number_toString_append mantissa (by simp) (exponent?_toString n hrest)

end ZeroTrust.Json.Parser
