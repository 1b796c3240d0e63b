/-
  `Proofs.CountryRanges.File` — a range file and the countries that it gives.

  The lines of a range file that count are those that are not blank and no comment
  once they are trimmed (`countedLines`). What such a line has to say, field by field,
  is `Gives`. A file is read exactly when each of these lines gives a range and no two
  of the ranges share an address; an address then has the country of the only line
  whose range holds it (`ofText_and_locate`).

  Reading is followed line by line (`ofLine_eq_ok_iff`, `ofLines_eq_ok_iff`). The rest
  is about tables of ranges: a file is as good as the set of ranges that its lines
  give (`ordered_and_mem_iff_of_ofText`), which does not depend on their order.
-/
import ZeroTrust.Proofs.CountryRanges.Table
import ZeroTrust.Proofs.Except

namespace ZeroTrust

namespace CountryRange

/-! ### Lines -/

/-- What a trimmed line has to say to give a range: an address, an address that is no lower, and two
ASCII letters. What follows does not count. The country is the letters in capitals. -/
def Gives (line : String) (r : CountryRange) : Prop :=
  ∃ first last code rest, Text.words line = first :: last :: code :: rest ∧
    Net.Ipv4.parse? first = some r.first ∧ Net.Ipv4.parse? last = some r.last ∧
    r.first.toNat ≤ r.last.toNat ∧
    (code.toList.length = 2 ∧ ∀ c ∈ code.toList, c.isAlpha = true) ∧
    r.country = Text.upper code

/-- The lines that count, trimmed: those that are neither blank nor a comment. -/
def countedLines (lines : List String) : List String :=
  (lines.map Text.trim).filter fun line => line ≠ "" ∧ line.toList.head? ≠ some '#'

theorem address_eq_ok_iff (field : String) (a : Net.Ipv4) :
    address field = .ok a ↔ Net.Ipv4.parse? field = some a := by
  rw [address]
  cases Net.Ipv4.parse? field <;> simp

theorem isCode_iff (s : String) :
    isCode s = true ↔ s.toList.length = 2 ∧ ∀ c ∈ s.toList, c.isAlpha = true := by
  rw [isCode, Bool.and_eq_true, beq_iff_eq, List.all_eq_true]

/-- **A line is read exactly when it gives a range**, and as that range. -/
theorem ofLine_eq_ok_iff (line : String) (r : CountryRange) :
    ofLine line = .ok r ↔ Gives line r := by
  rw [ofLine, Gives]
  split
  case h_1 first last code rest hwords =>
    simp only [Except.bind_eq_ok_iff, address_eq_ok_iff, Except.guarded_eq_ok_iff,
      Except.pure_eq_ok_iff, Bool.not_eq_true', Bool.not_eq_false, isCode_iff, Nat.not_lt]
    constructor
    · rintro ⟨a, ha, b, hb, hle, hcode, rfl⟩
      exact ⟨first, last, code, rest, hwords, ha, hb, hle, hcode, rfl⟩
    · rintro ⟨first', last', code', rest', heq, hfirst, hlast, hle, hcode, hcountry⟩
      rw [hwords] at heq
      cases heq
      exact ⟨r.first, hfirst, r.last, hlast, hle, hcode, by rw [← hcountry]⟩
  case h_2 hwords =>
    refine iff_of_false nofun ?_
    rintro ⟨first, last, code, rest, heq, -⟩
    exact hwords _ _ _ _ heq

theorem Gives.proper {line : String} {r : CountryRange} (h : Gives line r) : r.Proper := by
  obtain ⟨-, -, -, -, -, -, -, hle, -⟩ := h
  exact hle

theorem Gives.unique {line : String} {r s : CountryRange} (hr : Gives line r)
    (hs : Gives line s) : r = s := by
  rw [← ofLine_eq_ok_iff] at hr hs
  exact Except.ok.inj (hr.symm.trans hs)

/-! ### All lines -/

theorem countedLines_cons (line : String) (lines : List String) :
    countedLines (line :: lines) =
      if isPassedOver (Text.trim line) then countedLines lines
      else Text.trim line :: countedLines lines := by
  have hpassed : isPassedOver (Text.trim line) = true ↔
      ¬ (Text.trim line ≠ "" ∧ (Text.trim line).toList.head? ≠ some '#') := by
    rw [isPassedOver, Bool.or_eq_true, beq_iff_eq, beq_iff_eq]
    exact Decidable.or_iff_not_not_and_not
  rw [countedLines, List.map_cons, List.filter_cons]
  split
  case isTrue hcounts =>
    rw [if_neg fun h => hpassed.1 h (of_decide_eq_true hcounts), countedLines]
  case isFalse hcounts =>
    rw [if_pos (hpassed.2 fun h => hcounts (decide_eq_true h)), countedLines]

/-- **Lines are read exactly when each line that counts is**, as the ranges in their order. -/
theorem ofLines_eq_ok_iff (number : Nat) (lines : List String) (rs : List CountryRange) :
    ofLines number lines = .ok rs ↔ (countedLines lines).map ofLine = rs.map .ok := by
  induction lines generalizing number rs with
  | nil => simp [ofLines, countedLines, eq_comm]
  | cons line lines ih =>
    rw [ofLines, countedLines_cons]
    split
    case isTrue hpassed => exact ih (number + 1) rs
    case isFalse hcounts =>
      rw [List.map_cons]
      cases hline : ofLine (Text.trim line) with
      | ok r =>
        simp only [Except.bind_eq_ok_iff, Except.pure_eq_ok_iff, ih]
        cases rs with
        | nil => simp
        | cons s rs =>
          rw [List.map_cons, List.cons.injEq, Except.ok.injEq]
          refine ⟨?_, fun ⟨hr, hrs⟩ => ⟨rs, hrs, by rw [hr]⟩⟩
          rintro ⟨_, hrs, heq⟩
          cases heq
          exact ⟨rfl, hrs⟩
      | error fault =>
        -- A line with a fault ends the reading, and it is none of the ranges.
        refine iff_of_false nofun fun h => ?_
        cases rs <;> simp at h

/-! ### The set of ranges -/

variable {lines : List String} {rs : List CountryRange}

theorem mem_iff_of_map_ofLine_eq (h : (countedLines lines).map ofLine = rs.map .ok)
    (r : CountryRange) : r ∈ rs ↔ ∃ line ∈ countedLines lines, Gives line r := by
  have hmem : r ∈ rs ↔ Except.ok r ∈ rs.map (Except.ok (ε := LineFault)) := by simp
  rw [hmem, ← h, List.mem_map]
  simp only [ofLine_eq_ok_iff]

theorem proper_of_map_ofLine_eq (h : (countedLines lines).map ofLine = rs.map .ok) :
    ∀ r ∈ rs, r.Proper := by
  intro r hr
  obtain ⟨line, -, hgives⟩ := (mem_iff_of_map_ofLine_eq h r).1 hr
  exact hgives.proper

/-- Lines can be read one by one exactly when there are ranges that they are read as. -/
theorem exists_map_ofLine_eq_iff (lines : List String) :
    (∃ rs : List CountryRange, lines.map ofLine = rs.map .ok) ↔
      ∀ line ∈ lines, ∃ r, Gives line r := by
  induction lines with
  | nil => exact iff_of_true ⟨[], rfl⟩ nofun
  | cons line lines ih =>
    rw [List.forall_mem_cons, ← ih]
    simp only [← ofLine_eq_ok_iff]
    constructor
    · rintro ⟨_ | ⟨r, rs⟩, h⟩
      · cases h
      · rw [List.map_cons, List.map_cons, List.cons.injEq] at h
        exact ⟨⟨r, h.1⟩, rs, h.2⟩
    · rintro ⟨⟨r, hr⟩, rs, hrs⟩
      exact ⟨r :: rs, by rw [List.map_cons, List.map_cons, hr, hrs]⟩

theorem pairwise_apart_iff_of_map_ofLine_eq (h : lines.map ofLine = rs.map .ok) :
    rs.Pairwise Apart ↔
      lines.Pairwise fun line other => ∀ r s, Gives line r → Gives other s → r.Apart s := by
  have hread : (lines.map ofLine).Pairwise (fun x y => ∀ r s, x = .ok r → y = .ok s → r.Apart s) ↔
      rs.Pairwise Apart := by
    rw [h, List.pairwise_map]
    simp
  rw [← hread, List.pairwise_map]
  simp only [ofLine_eq_ok_iff]

end CountryRange

namespace CountryRanges

open CountryRange

/-! ### Tables of a file -/

theorem ofText_eq_ok_iff (text : String) (t : CountryRanges) :
    ofText text = .ok t ↔ ∃ rs : List CountryRange,
      (countedLines (Text.lines text)).map ofLine = rs.map .ok ∧ ofRanges rs = .ok t := by
  rw [ofText, Except.bind_eq_ok_iff]
  simp only [ofLines_eq_ok_iff]

/-- **A file is read exactly when its lines give ranges that lie apart.** -/
theorem exists_ofText_eq_ok_iff (text : String) :
    (∃ t, ofText text = .ok t) ↔
      (∀ line ∈ countedLines (Text.lines text), ∃ r, Gives line r) ∧
        (countedLines (Text.lines text)).Pairwise fun line other =>
          ∀ r s, Gives line r → Gives other s → r.Apart s := by
  -- Once the lines are read as ranges, only these count.
  have htable : ∀ rs : List CountryRange,
      (countedLines (Text.lines text)).map ofLine = rs.map .ok →
        ((∃ t, ofRanges rs = .ok t) ↔
          (countedLines (Text.lines text)).Pairwise fun line other =>
            ∀ r s, Gives line r → Gives other s → r.Apart s) := by
    intro rs hrs
    rw [← pairwise_apart_iff_of_map_ofLine_eq hrs]
    exact exists_ofRanges_eq_ok_iff (proper_of_map_ofLine_eq hrs)
  rw [← exists_map_ofLine_eq_iff]
  simp only [ofText_eq_ok_iff]
  constructor
  · rintro ⟨t, rs, hrs, ht⟩
    exact ⟨⟨rs, hrs⟩, (htable rs hrs).1 ⟨t, ht⟩⟩
  · rintro ⟨⟨rs, hrs⟩, hapart⟩
    obtain ⟨t, ht⟩ := (htable rs hrs).2 hapart
    exact ⟨t, rs, hrs, ht⟩

/-- The table of a file holds the ranges that its lines give, in order. -/
theorem ordered_and_mem_iff_of_ofText {text : String} {t : CountryRanges}
    (ht : ofText text = .ok t) :
    t.Ordered ∧ ∀ r, r ∈ t.ranges ↔ ∃ line ∈ countedLines (Text.lines text), Gives line r := by
  obtain ⟨rs, hrs, ht⟩ := (ofText_eq_ok_iff text t).1 ht
  obtain ⟨hordered, htable⟩ := ordered_and_mem_iff_of_ofRanges (proper_of_map_ofLine_eq hrs) ht
  exact ⟨hordered, fun r => (htable r).trans (mem_iff_of_map_ofLine_eq hrs r)⟩

/-- The order of the lines does not matter. -/
theorem ofText_eq_ok_of_perm {text text' : String} {t : CountryRanges} (ht : ofText text = .ok t)
    (hperm : (Text.lines text).Perm (Text.lines text')) : ofText text' = .ok t := by
  have hcounted : (countedLines (Text.lines text)).Perm (countedLines (Text.lines text')) :=
    (hperm.map Text.trim).filter _
  have hread : ∃ t', ofText text' = .ok t' := by
    obtain ⟨hgives, hapart⟩ := (exists_ofText_eq_ok_iff text).1 ⟨t, ht⟩
    refine (exists_ofText_eq_ok_iff text').2 ⟨fun line hline => ?_, ?_⟩
    · exact hgives line (hcounted.mem_iff.2 hline)
    · exact (hcounted.pairwise_iff fun h r s hr hs => (h s r hs hr).symm).1 hapart
  obtain ⟨t', ht'⟩ := hread
  -- Both tables hold the ranges that the lines give, and there is one order for them.
  obtain ⟨hordered, hmem⟩ := ordered_and_mem_iff_of_ofText ht
  obtain ⟨hordered', hmem'⟩ := ordered_and_mem_iff_of_ofText ht'
  rw [ht', hordered.eq_of_mem_iff hordered' fun r => ?_]
  rw [hmem, hmem']
  simp only [hcounted.mem_iff]

/-! ### Countries -/

/-- Only one line of a file can hold an address. -/
theorem forall_not_holds_of_ofText {text : String} {t : CountryRanges} (ht : ofText text = .ok t)
    {front back : List String} {line : String}
    (hsplit : countedLines (Text.lines text) = front ++ line :: back) {r : CountryRange}
    (hr : Gives line r) {a : Net.Ipv4} (ha : r.Holds a) :
    ∀ other ∈ front ++ back, ∀ s, Gives other s → ¬ s.Holds a := by
  have hapart := ((exists_ofText_eq_ok_iff text).1 ⟨t, ht⟩).2
  rw [hsplit, List.pairwise_append, List.pairwise_cons] at hapart
  obtain ⟨-, ⟨hback, -⟩, hfront⟩ := hapart
  intro other hother s hs hholds
  rcases List.mem_append.1 hother with hother | hother
  · exact hfront other hother line List.mem_cons_self s r hs hr a ⟨hholds, ha⟩
  · exact hback other hother r s hr hs a ⟨ha, hholds⟩

/-- An address has the country of a line whose range holds it. -/
theorem locate_eq_some_iff_of_ofText {text : String} {t : CountryRanges} (ht : ofText text = .ok t)
    (a : Net.Address) (code : String) :
    t.locate a = some code ↔ ∃ v, a.ipv4? = some v ∧
      ∃ line ∈ countedLines (Text.lines text),
        ∃ r, Gives line r ∧ r.Holds v ∧ r.country = code := by
  obtain ⟨hordered, hmem⟩ := ordered_and_mem_iff_of_ofText ht
  rw [locate, Option.bind_eq_some_iff]
  refine exists_congr fun v => and_congr_right fun _ => ?_
  rw [hordered.countryOf?_eq_some_iff]
  simp only [hmem]
  constructor
  · rintro ⟨r, ⟨line, hline, hr⟩, h⟩
    exact ⟨line, hline, r, hr, h⟩
  · rintro ⟨line, hline, r, hr, h⟩
    exact ⟨r, ⟨line, hline, hr⟩, h⟩

/-- No other line holds an address that has a country. -/
theorem locate_eq_some_iff_only_line {text : String} {t : CountryRanges} (ht : ofText text = .ok t)
    (a : Net.Address) (code : String) :
    t.locate a = some code ↔ ∃ v, a.ipv4? = some v ∧
      ∃ front line back, countedLines (Text.lines text) = front ++ line :: back ∧
        (∃ r, Gives line r ∧ r.Holds v ∧ r.country = code) ∧
        ∀ other ∈ front ++ back, ∀ s, Gives other s → ¬ s.Holds v := by
  rw [locate_eq_some_iff_of_ofText ht]
  refine exists_congr fun v => and_congr_right fun hv => ?_
  constructor
  · rintro ⟨line, hline, r, hr, hholds, hcode⟩
    -- A line is told from the others by its place, whatever they say.
    obtain ⟨front, back, hsplit⟩ := List.append_of_mem hline
    exact ⟨front, line, back, hsplit, ⟨r, hr, hholds, hcode⟩,
      forall_not_holds_of_ofText ht hsplit hr hholds⟩
  · rintro ⟨front, line, back, hsplit, hline, -⟩
    exact ⟨line, by simp [hsplit], hline⟩

/-- An address has no country where no line holds it. -/
theorem locate_eq_none_iff_of_ofText {text : String} {t : CountryRanges} (ht : ofText text = .ok t)
    (a : Net.Address) :
    t.locate a = none ↔ ∀ v, a.ipv4? = some v →
      ∀ line ∈ countedLines (Text.lines text), ∀ r, Gives line r → ¬ r.Holds v := by
  rw [Option.eq_none_iff_forall_ne_some]
  simp only [ne_eq, locate_eq_some_iff_of_ofText ht]
  constructor
  · -- A line that held the address would give it its own country.
    intro h v hv line hline r hr hholds
    exact h r.country ⟨v, hv, line, hline, r, hr, hholds, rfl⟩
  · rintro h code ⟨v, hv, line, hline, r, hr, hholds, -⟩
    exact h v hv line hline r hr hholds

/-- **What a range file says.** A file is read exactly when each line that counts gives a range and
no two of them share an address. An address then has the country of the only line whose range holds
the address or, if it is a longer one, the address of four octets that it maps. It has none where
no line does, or where a longer address maps none. Looking it up by halves gives the same, and so do
the lines in any other order. -/
theorem ofText_and_locate (text : String) :
    ((∃ t, ofText text = .ok t) ↔
      (∀ line ∈ countedLines (Text.lines text), ∃ r, Gives line r) ∧
        (countedLines (Text.lines text)).Pairwise fun line other =>
          ∀ r s, Gives line r → Gives other s → r.Apart s) ∧
    ∀ t, ofText text = .ok t →
      (∀ (a : Net.Address) (code : String), t.locate a = some code ↔
        ∃ v, a.ipv4? = some v ∧
          ∃ front line back, countedLines (Text.lines text) = front ++ line :: back ∧
            (∃ r, Gives line r ∧ r.Holds v ∧ r.country = code) ∧
            ∀ other ∈ front ++ back, ∀ s, Gives other s → ¬ s.Holds v) ∧
      (∀ a : Net.Address, t.locate a = none ↔
        ∀ v, a.ipv4? = some v →
          ∀ line ∈ countedLines (Text.lines text), ∀ r, Gives line r → ¬ r.Holds v) ∧
      (∀ v : Net.Ipv4, t.countryOf? v =
        (t.ranges[t.place v]?.filter fun r => r.first.toNat ≤ v.toNat).map CountryRange.country) ∧
      ∀ text', (Text.lines text).Perm (Text.lines text') → ofText text' = .ok t := by
  refine ⟨exists_ofText_eq_ok_iff text, fun t ht => ⟨?only, ?none, ?halves, ?order⟩⟩
  case only => exact locate_eq_some_iff_only_line ht
  case none => exact locate_eq_none_iff_of_ofText ht
  case halves => exact (ordered_and_mem_iff_of_ofText ht).1.countryOf?_eq_place
  case order => exact fun text' hperm => ofText_eq_ok_of_perm ht hperm

/-- A file of two ranges, the upper one first. -/
def twoRanges : String :=
  "# sample\n8.8.8.0 8.8.8.255 us extra\n\n1.0.0.0 1.0.0.255 AU\n"

/-- The same lines the other way round. -/
def twoRangesTurned : String :=
  "1.0.0.0 1.0.0.255 AU\n\n8.8.8.0 8.8.8.255 us extra\n# sample\n"

theorem ofText_and_locate_twoRanges :
    ∃ t, ofText twoRanges = .ok t ∧ ofText twoRangesTurned = .ok t ∧
      t.locate (.v4 (.ofOctets 8 8 8 255)) = some "US" ∧
      t.locate (.v6 ⟨#v[0, 0, 0, 0, 0, 0xffff, 0x0100, 0]⟩) = some "AU" ∧
      t.locate (.v4 (.ofOctets 8 8 9 0)) = none ∧
      t.locate (.v6 ⟨#v[0x2001, 0xdb8, 0, 0, 0, 0, 0x0808, 0x0808]⟩) = none := by
  have hlines : countedLines (Text.lines twoRanges) =
      ["8.8.8.0 8.8.8.255 us extra", "1.0.0.0 1.0.0.255 AU"] := by decide +kernel
  have hus : Gives "8.8.8.0 8.8.8.255 us extra" ⟨.ofOctets 8 8 8 0, .ofOctets 8 8 8 255, "US"⟩ :=
    ⟨"8.8.8.0", "8.8.8.255", "us", ["extra"], by decide +kernel, by decide +kernel,
      by decide +kernel, by decide, (isCode_iff _).1 (by decide), rfl⟩
  have hau : Gives "1.0.0.0 1.0.0.255 AU" ⟨.ofOctets 1 0 0 0, .ofOctets 1 0 0 255, "AU"⟩ :=
    ⟨"1.0.0.0", "1.0.0.255", "AU", [], by decide +kernel, by decide +kernel,
      by decide +kernel, by decide, (isCode_iff _).1 (by decide), rfl⟩
  obtain ⟨hread, hlocate⟩ := ofText_and_locate twoRanges
  rw [hlines] at hread hlocate
  obtain ⟨t, ht⟩ := hread.2 ⟨by simpa using ⟨⟨_, hus⟩, _, hau⟩, by
    refine List.pairwise_pair.2 fun r s hr hs => ?_
    rw [hr.unique hus, hs.unique hau]
    exact Apart.symm (Before.apart (by decide))⟩
  obtain ⟨hsome, hnone, -, hturned⟩ := hlocate t ht
  refine ⟨t, ht, hturned _ (by decide +kernel), ?_, ?_, ?_, ?_⟩
  · refine (hsome _ _).2
      ⟨_, rfl, [], _, _, rfl, ⟨_, hus, by decide, rfl⟩, fun other hother s hs => ?_⟩
    obtain rfl := List.mem_singleton.1 hother
    rw [hs.unique hau]
    decide
  · refine (hsome _ _).2
      ⟨_, rfl, [_], _, [], rfl, ⟨_, hau, by decide, rfl⟩, fun other hother s hs => ?_⟩
    obtain rfl := List.mem_singleton.1 hother
    rw [hs.unique hus]
    decide
  · refine (hnone _).2 fun v hv line hline r hr => ?_
    obtain rfl := Option.some.inj hv
    rcases List.mem_cons.1 hline with rfl | hline
    · rw [hr.unique hus]
      decide
    · obtain rfl := List.mem_singleton.1 hline
      rw [hr.unique hau]
      decide
  · exact (hnone _).2 fun v hv => absurd hv (by decide +revert)

end CountryRanges

end ZeroTrust
