/-
  `Proofs.Net.Literal` — the characters of network literals.

  Whatever is read as a network is written with decimal digits, points and one
  slash (`isLiteralChar_of_mem`). So a literal holds no blank and no comma: it is
  its own trimmed form (`trim_of_isSome`), and literals between commas can be told
  apart again (`comma_notMem_of_isSome`).
-/
import ZeroTrust.Net.Cidr
import ZeroTrust.Proofs.Text.Trimming

namespace ZeroTrust

/-! ### Pieces between separators -/

theorem mem_of_mem_intercalate {α : Type} {sep x : α} :
    ∀ {ls : List (List α)}, x ∈ [sep].intercalate ls → x = sep ∨ ∃ l ∈ ls, x ∈ l
  | [], h => absurd h List.not_mem_nil
  | [l], h => .inr ⟨l, List.mem_singleton_self l, by simpa using h⟩
  | l :: l' :: ls, h => by
    rw [List.intercalate_cons_cons, List.mem_append, List.mem_append, List.mem_singleton] at h
    rcases h with (h | h) | h
    · exact .inr ⟨l, List.mem_cons_self, h⟩
    · exact .inl h
    · rcases mem_of_mem_intercalate h with h | ⟨m, hm, hx⟩
      · exact .inl h
      · exact .inr ⟨m, List.mem_cons_of_mem _ hm, hx⟩

/-- An element of a list is the separator or stands in one of the pieces. -/
theorem mem_piece_of_mem {α : Type} [BEq α] [LawfulBEq α] (sep : α) {x : α} {xs : List α}
    (h : x ∈ xs) :
    x = sep ∨ ∃ l ∈ xs.splitOn sep, x ∈ l := by
  rw [← xs.intercalate_splitOn sep] at h
  exact mem_of_mem_intercalate h

namespace Net.Cidr

/-! ### Digits, points and a slash -/

/-- A character that can stand in a network literal. -/
def isLiteralChar (c : Char) : Bool :=
  c.isDigit || c == '.' || c == '/'

theorem isDigit_of_mem_field {width limit n : Nat} {cs : List Char}
    (h : Text.field? width limit cs = some n) : ∀ c ∈ cs, c.isDigit = true := by
  rw [Text.field?] at h
  split at h
  · obtain ⟨hdigits, -⟩ := Option.filter_eq_some_iff.1 h
    rw [Text.digits?] at hdigits
    split at hdigits
    · rename_i hall
      rw [Bool.and_eq_true, List.all_eq_true] at hall
      exact hall.2
    · exact absurd hdigits (by simp)
  · exact absurd h (by simp)

theorem isLiteralChar_of_mem_base {cs : List Char} (h : (base? cs).isSome = true) :
    ∀ c ∈ cs, isLiteralChar c = true := by
  intro x hx
  rw [base?] at h
  split at h
  · rename_i a b c d hpieces
    simp only [Option.bind_eq_bind, Option.isSome_iff_exists, Option.bind_eq_some_iff] at h
    obtain ⟨-, na, ha, nb, hb, nc, hc, nd, hd, -⟩ := h
    -- A character is a point or stands in one of the four numbers between the points.
    rcases mem_piece_of_mem '.' hx with rfl | ⟨l, hl, hxl⟩
    · rfl
    · rw [hpieces] at hl
      have hdigit : x.isDigit = true := by
        simp only [List.mem_cons, List.not_mem_nil, or_false] at hl
        rcases hl with rfl | rfl | rfl | rfl
        · exact isDigit_of_mem_field ha x hxl
        · exact isDigit_of_mem_field hb x hxl
        · exact isDigit_of_mem_field hc x hxl
        · exact isDigit_of_mem_field hd x hxl
      simp [isLiteralChar, hdigit]
  · exact absurd h (by simp)

/-- Only digits, points and slashes stand in what is read as a network. -/
theorem isLiteralChar_of_mem {s : String} (h : (parse? s).isSome = true) :
    ∀ c ∈ s.toList, isLiteralChar c = true := by
  intro x hx
  rw [parse?] at h
  split at h
  · rename_i address length hpieces
    simp only [Option.bind_eq_bind, Option.isSome_iff_exists, Option.bind_eq_some_iff] at h
    obtain ⟨-, base, hbase, n, hn, -⟩ := h
    rcases mem_piece_of_mem '/' hx with rfl | ⟨l, hl, hxl⟩
    · rfl
    · rw [hpieces] at hl
      simp only [List.mem_cons, List.not_mem_nil, or_false] at hl
      rcases hl with rfl | rfl
      · exact isLiteralChar_of_mem_base (by rw [hbase]; rfl) x hxl
      · simp [isLiteralChar, isDigit_of_mem_field hn x hxl]
  · exact absurd h (by simp)

theorem not_isBlank_of_isLiteralChar {c : Char} (h : isLiteralChar c = true) :
    Text.isBlank c = false := by
  -- The point, the slash and the digits lie next to one another, and no blank among them.
  have hrange : 46 ≤ c.toNat ∧ c.toNat ≤ 57 := by
    simp only [isLiteralChar, Char.isDigit_iff_toNat, Bool.or_eq_true, beq_iff_eq] at h
    rcases h with (⟨hlow, hhigh⟩ | rfl) | rfl
    · exact ⟨Nat.le_trans (by decide) hlow, Nat.le_trans hhigh (by decide)⟩
    · decide
    · decide
  rw [← Bool.not_eq_true, Text.isBlank]
  simp
  omega

/-- A network literal is its own trimmed form. -/
theorem trim_of_isSome {s : String} (h : (parse? s).isSome = true) : Text.trim s = s :=
  Text.trim_eq_self fun c hc => not_isBlank_of_isLiteralChar (isLiteralChar_of_mem h c hc)

/-- No comma stands in a network literal. -/
theorem comma_notMem_of_isSome {s : String} (h : (parse? s).isSome = true) : ',' ∉ s.toList :=
  fun hc => absurd (isLiteralChar_of_mem h ',' hc) (by decide)

end Net.Cidr

end ZeroTrust
