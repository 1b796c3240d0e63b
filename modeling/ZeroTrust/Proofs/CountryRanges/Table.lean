/-
  `Proofs.CountryRanges.Table` — tables of ranges that lie apart.

  Ranges come to a table when no two of them share an address. That is found out by
  sorting them and looking at neighbours, which is enough as long as no range ends
  before it begins (`CountryRange.Proper`): neighbours that lie apart are then one
  before the other, and so are any two (`firstOverlap?_eq_none_iff`,
  `exists_ofRanges_eq_ok_iff`).

  In a table like that (`CountryRanges.Ordered`) an address has the country of the one
  range that holds it (`Ordered.countryOf?_eq_some_iff`). The ranges that end before an
  address stand in front of all others. So the place at which they stop can be found by
  halves (`place`), and the range at that place is the only one to look at
  (`Ordered.countryOf?_eq_place`). An ordered table is known by its ranges, however
  they were listed before (`Ordered.eq_of_mem_iff`).
-/
import ZeroTrust.CountryRanges

namespace ZeroTrust

/-! ### Ranges -/

namespace CountryRange

/-- Whether a range holds an address. -/
def Holds (r : CountryRange) (a : Net.Ipv4) : Prop :=
  r.first.toNat ≤ a.toNat ∧ a.toNat ≤ r.last.toNat

/-- Whether a range does not end before it begins. -/
def Proper (r : CountryRange) : Prop :=
  r.first.toNat ≤ r.last.toNat

/-- Whether no address lies in both of two ranges. -/
def Apart (r s : CountryRange) : Prop :=
  ∀ a, ¬ (r.Holds a ∧ s.Holds a)

/-- Whether a range ends before another one begins. -/
def Before (r s : CountryRange) : Prop :=
  r.last.toNat < s.first.toNat

instance (r : CountryRange) (a : Net.Ipv4) : Decidable (r.Holds a) :=
  inferInstanceAs (Decidable (_ ∧ _))

instance (r s : CountryRange) : Decidable (r.Before s) :=
  inferInstanceAs (Decidable (_ < _))

variable {r s u : CountryRange}

theorem Apart.symm (h : r.Apart s) : s.Apart r :=
  fun a ha => h a ha.symm

theorem Before.apart (h : r.Before s) : r.Apart s := by
  rintro a ⟨⟨-, hr⟩, ⟨hs, -⟩⟩
  exact absurd (Nat.le_trans hs hr) (Nat.not_le_of_lt h)

/-- Of two ranges that lie apart, the one that begins first is over before the other begins. -/
theorem Apart.before (h : r.Apart s) (hs : s.Proper) (hle : r.first.toNat ≤ s.first.toNat) :
    r.Before s := by
  -- The first address of the second would otherwise lie in both.
  refine Nat.lt_of_not_le fun hlast => h s.first ⟨⟨hle, hlast⟩, Nat.le_refl _, hs⟩

theorem Before.trans (hrs : r.Before s) (hs : s.Proper) (hsu : s.Before u) : r.Before u :=
  Nat.lt_trans hrs (Nat.lt_of_le_of_lt hs hsu)

theorem Before.asymm (hrs : r.Before s) (hr : r.Proper) (hs : s.Proper) : ¬ s.Before r :=
  fun hsr => Nat.not_lt_of_le hr (hrs.trans hs hsr)

/-- Where neighbours do not overlap, each range is over before all that follow begin. -/
theorem firstOverlap?_eq_none_iff {rs : List CountryRange} (hproper : ∀ r ∈ rs, r.Proper) :
    firstOverlap? rs = none ↔ rs.Pairwise Before := by
  fun_induction firstOverlap? rs with
  | case1 a b rest hle =>
    refine iff_of_false (Option.some_ne_none _) fun h => ?_
    exact Nat.not_lt_of_le hle (List.rel_of_pairwise_cons h List.mem_cons_self)
  | case2 a b rest hlt ih =>
    have hab : a.Before b := Nat.lt_of_not_le hlt
    rw [ih fun r hr => hproper r (List.mem_cons_of_mem _ hr), List.pairwise_cons (a := a)]
    refine ⟨fun h => ⟨fun r hr => ?_, h⟩, And.right⟩
    rcases List.mem_cons.1 hr with rfl | hr
    · exact hab
    · exact hab.trans (hproper b (by simp)) (List.rel_of_pairwise_cons h hr)
  | case3 rs hrs =>
    -- With no neighbours there is nothing to compare.
    refine iff_of_true rfl ?_
    match rs, hrs with
    | [], _ => exact .nil
    | [a], _ => exact List.pairwise_singleton _ _
    | a :: b :: rest, hrs => exact absurd rfl (hrs a b rest)

end CountryRange

/-! ### Tables -/

namespace CountryRanges

open CountryRange

/-- What the ranges of a table are like: none ends before it begins, and each is over before those
after it begin. -/
structure Ordered (t : CountryRanges) : Prop where
  proper : ∀ r ∈ t.ranges, r.Proper
  before : t.ranges.Pairwise Before

/-- The order in which ranges are put. -/
def beginsFirst (r s : CountryRange) : Bool :=
  r.first.toNat ≤ s.first.toNat

theorem pairwise_mergeSort_beginsFirst (rs : List CountryRange) :
    (rs.mergeSort beginsFirst).Pairwise fun r s => r.first.toNat ≤ s.first.toNat := by
  have htrans : ∀ r s u : CountryRange, beginsFirst r s = true → beginsFirst s u = true →
      beginsFirst r u = true := by
    simp only [beginsFirst, decide_eq_true_eq]
    exact fun r s u => Nat.le_trans
  have htotal : ∀ r s : CountryRange, (beginsFirst r s || beginsFirst s r) = true := by
    simp only [beginsFirst, Bool.or_eq_true, decide_eq_true_eq]
    exact fun r s => Nat.le_total _ _
  exact (List.pairwise_mergeSort htrans htotal rs).imp of_decide_eq_true

/-- What is made of ranges is read off the neighbours among them in order. -/
theorem ofRanges_eq (rs : List CountryRange) :
    ofRanges rs =
      match firstOverlap? (rs.mergeSort beginsFirst) with
      | some (r, s) => .error (.overlap r.first s.first)
      | none => .ok ⟨rs.mergeSort beginsFirst⟩ :=
  rfl

/-- In order, ranges that lie apart come one before the other. -/
theorem pairwise_before_mergeSort_iff {rs : List CountryRange} (hproper : ∀ r ∈ rs, r.Proper) :
    (rs.mergeSort beginsFirst).Pairwise Before ↔ rs.Pairwise Apart := by
  have hperm : (rs.mergeSort beginsFirst).Perm rs := List.mergeSort_perm rs _
  -- Lying apart does not depend on the order, so it can be asked of the sorted ranges.
  rw [← hperm.pairwise_iff Apart.symm]
  refine ⟨fun h => h.imp Before.apart, fun h => ?_⟩
  refine (h.and (pairwise_mergeSort_beginsFirst rs)).imp_of_mem fun _ hs hrs => ?_
  exact hrs.1.before (hproper _ (hperm.mem_iff.1 hs)) hrs.2

/-- **Ranges come to a table exactly when they lie apart.** -/
theorem exists_ofRanges_eq_ok_iff {rs : List CountryRange} (hproper : ∀ r ∈ rs, r.Proper) :
    (∃ t, ofRanges rs = .ok t) ↔ rs.Pairwise Apart := by
  have hsorted : ∀ r ∈ rs.mergeSort beginsFirst, r.Proper :=
    fun r hr => hproper r (List.mem_mergeSort.1 hr)
  rw [← pairwise_before_mergeSort_iff hproper, ← firstOverlap?_eq_none_iff hsorted, ofRanges_eq]
  cases firstOverlap? (rs.mergeSort beginsFirst) with
  | none => simp
  | some pair => simp

/-- A table holds the ranges that it was made of, in order. -/
theorem ordered_and_mem_iff_of_ofRanges {rs : List CountryRange} (hproper : ∀ r ∈ rs, r.Proper)
    {t : CountryRanges} (ht : ofRanges rs = .ok t) : t.Ordered ∧ ∀ r, r ∈ t.ranges ↔ r ∈ rs := by
  have hapart : rs.Pairwise Apart := (exists_ofRanges_eq_ok_iff hproper).1 ⟨t, ht⟩
  rw [ofRanges_eq] at ht
  split at ht
  · cases ht
  · obtain rfl := Except.ok.inj ht
    exact ⟨⟨fun r hr => hproper r (List.mem_mergeSort.1 hr),
      (pairwise_before_mergeSort_iff hproper).2 hapart⟩, fun r => List.mem_mergeSort⟩

namespace Ordered

variable {t t' : CountryRanges}

theorem nodup (h : t.Ordered) : t.ranges.Nodup :=
  h.before.imp_of_mem fun hr hs hrs heq => hrs.asymm (h.proper _ hr) (h.proper _ hs) (heq ▸ hrs)

/-- An ordered table is known by its ranges. -/
theorem eq_of_mem_iff (h : t.Ordered) (h' : t'.Ordered)
    (hmem : ∀ r, r ∈ t.ranges ↔ r ∈ t'.ranges) : t = t' := by
  have hperm : t.ranges.Perm t'.ranges := (List.perm_ext_iff_of_nodup h.nodup h'.nodup).2 hmem
  have hsame : t.ranges = t'.ranges := hperm.eq_of_pairwise
    (fun r s hr hs hrs hsr =>
      absurd hsr (hrs.asymm (h.proper r hr) (h'.proper s hs)))
    h.before h'.before
  cases t
  cases t'
  exact congrArg CountryRanges.mk hsame

/-! ### Looking up -/

/-- Only the first range that does not end before an address can hold it. -/
theorem eq_of_find?_of_holds (h : t.Ordered) {a : Net.Ipv4} {r s : CountryRange}
    (hfind : (t.ranges.find? fun r => a.toNat ≤ r.last.toNat) = some r) (hs : s ∈ t.ranges)
    (hholds : s.Holds a) : s = r := by
  obtain ⟨hlast, front, back, hsplit, hfront⟩ := List.find?_eq_some_iff_append.1 hfind
  have hpairwise := h.before
  rw [hsplit, List.pairwise_append, List.pairwise_cons] at hpairwise
  rw [hsplit, List.mem_append, List.mem_cons] at hs
  rcases hs with hs | rfl | hs
  · -- Those in front of it end too early.
    have hearly : ¬ a.toNat ≤ s.last.toNat := by simpa using hfront s hs
    exact absurd hholds.2 hearly
  · rfl
  · -- Those behind it begin too late.
    have hlate : r.last.toNat < s.first.toNat := hpairwise.2.1.1 s hs
    have hstart : s.first.toNat ≤ a.toNat := hholds.1
    have hend : a.toNat ≤ r.last.toNat := of_decide_eq_true hlast
    omega

/-- **An address has the country of the range that holds it.** -/
theorem countryOf?_eq_some_iff (h : t.Ordered) (a : Net.Ipv4) (code : String) :
    t.countryOf? a = some code ↔ ∃ r ∈ t.ranges, r.Holds a ∧ r.country = code := by
  rw [countryOf?]
  cases hfind : t.ranges.find? fun r => a.toNat ≤ r.last.toNat with
  | none =>
    -- All ranges end before the address, so none holds it.
    have hend : ∀ r ∈ t.ranges, r.last.toNat < a.toNat := by simpa using hfind
    refine iff_of_false nofun ?_
    rintro ⟨r, hr, ⟨-, hlast⟩, -⟩
    exact Nat.not_le_of_lt (hend r hr) hlast
  | some r =>
    have hr : r ∈ t.ranges := List.mem_of_find?_eq_some hfind
    have hlast : a.toNat ≤ r.last.toNat := by simpa using List.find?_some hfind
    -- Only the range that is found can hold the address, and it does unless it begins too late.
    have honly := fun s hs hholds => h.eq_of_find?_of_holds (s := s) hfind hs hholds
    simp only
    split
    case isTrue hfirst =>
      rw [Option.some.injEq]
      refine ⟨fun hcode => ⟨r, hr, ⟨hfirst, hlast⟩, hcode⟩, ?_⟩
      rintro ⟨s, hs, hholds, hcode⟩
      rw [← honly s hs hholds, hcode]
    case isFalse hfirst =>
      refine iff_of_false nofun ?_
      rintro ⟨s, hs, hholds, -⟩
      rw [honly s hs hholds] at hholds
      exact hfirst hholds.1

end Ordered

/-! ### Looking up by halves -/

/-- The first place from `low` on for which a test fails, found by halving what is left up to
`high`. -/
def bisect (test : Nat → Bool) (low high : Nat) : Nat :=
  if low < high then
    if test ((low + high) / 2) then bisect test ((low + high) / 2 + 1) high
    else bisect test low ((low + high) / 2)
  else low
termination_by high - low

/-- Where a test holds up to some place and fails from there on, halving arrives at that place: what
lies before `low` passes and what lies from `high` on fails, all the way. -/
theorem bisect_parts {test : Nat → Bool} (hmono : ∀ i j, i ≤ j → test j = true → test i = true)
    (low high : Nat) (hle : low ≤ high) (hlow : ∀ i < low, test i = true)
    (hhigh : ∀ i, high ≤ i → test i = false) :
    (∀ i < bisect test low high, test i = true) ∧
      ∀ i, bisect test low high ≤ i → test i = false := by
  fun_induction bisect test low high with
  | case1 low high hlt htest ih =>
    -- The middle passes, and so does all before it.
    refine ih (by omega) (fun i hi => hmono _ _ (Nat.le_of_lt_succ hi) htest) hhigh
  | case2 low high hlt htest ih =>
    -- The middle fails, and so does all from there on.
    refine ih (by omega) hlow fun i hi => ?_
    rw [← Bool.not_eq_true]
    exact fun hi' => htest (hmono _ _ hi hi')
  | case3 low high hge =>
    have heq : low = high := by omega
    exact ⟨hlow, heq ▸ hhigh⟩

/-- Whether there is a range at a place, and it ends before an address. -/
def endsBefore (t : CountryRanges) (a : Net.Ipv4) (i : Nat) : Bool :=
  t.ranges[i]?.any fun r => r.last.toNat < a.toNat

/-- The place at which the ranges that end before an address stop. -/
def place (t : CountryRanges) (a : Net.Ipv4) : Nat :=
  bisect (t.endsBefore a) 0 t.size

namespace Ordered

variable {t : CountryRanges}

/-- The ranges that end before an address stand in front of all others. -/
theorem endsBefore_mono (h : t.Ordered) (a : Net.Ipv4) (i j : Nat) (hij : i ≤ j)
    (hj : t.endsBefore a j = true) : t.endsBefore a i = true := by
  rw [endsBefore, Option.any_eq_true] at hj ⊢
  obtain ⟨s, hs, hlast⟩ := hj
  obtain ⟨hj, rfl⟩ := List.getElem?_eq_some_iff.1 hs
  have hi : i < t.ranges.length := Nat.lt_of_le_of_lt hij hj
  refine ⟨t.ranges[i], List.getElem?_eq_getElem hi, ?_⟩
  rcases Nat.lt_or_eq_of_le hij with hlt | rfl
  · have hbefore : t.ranges[i].last.toNat < t.ranges[j].first.toNat :=
      List.pairwise_iff_getElem.1 h.before i j hi hj hlt
    have hproper : t.ranges[j].first.toNat ≤ t.ranges[j].last.toNat :=
      h.proper _ (List.getElem_mem hj)
    rw [decide_eq_true_eq] at hlast ⊢
    omega
  · exact hlast

theorem place_parts (h : t.Ordered) (a : Net.Ipv4) :
    (∀ i < t.place a, t.endsBefore a i = true) ∧
      ∀ i, t.place a ≤ i → t.endsBefore a i = false := by
  refine bisect_parts (h.endsBefore_mono a) 0 t.size (Nat.zero_le _) (fun i hi => absurd hi ?_) ?_
  · exact Nat.not_lt_zero i
  · intro i hi
    rw [endsBefore, List.getElem?_eq_none hi]
    rfl

/-- The range at the place is the first that does not end before the address. -/
theorem find?_eq_getElem?_place (h : t.Ordered) (a : Net.Ipv4) :
    (t.ranges.find? fun r => a.toNat ≤ r.last.toNat) = t.ranges[t.place a]? := by
  obtain ⟨hbefore, hafter⟩ := h.place_parts a
  cases hplace : t.ranges[t.place a]? with
  | some r =>
    obtain ⟨hlength, rfl⟩ := List.getElem?_eq_some_iff.1 hplace
    have hr := hafter _ (Nat.le_refl _)
    rw [endsBefore, hplace] at hr
    refine List.find?_eq_some_iff_getElem.2 ⟨by simpa using hr, _, hlength, rfl, fun j hj => ?_⟩
    have hjlast := hbefore j hj
    rw [endsBefore, List.getElem?_eq_getElem (Nat.lt_trans hj hlength)] at hjlast
    simpa using hjlast
  | none =>
    -- All places are before this one, so every range ends too early.
    rw [List.find?_eq_none]
    intro r hr
    obtain ⟨j, hj, rfl⟩ := List.mem_iff_getElem.1 hr
    have hjlast := hbefore j (Nat.lt_of_lt_of_le hj (List.getElem?_eq_none_iff.1 hplace))
    rw [endsBefore, List.getElem?_eq_getElem hj] at hjlast
    simpa using hjlast

/-- **Looking an address up by halves** gives the same country. -/
theorem countryOf?_eq_place (h : t.Ordered) (a : Net.Ipv4) :
    t.countryOf? a =
      (t.ranges[t.place a]?.filter fun r => r.first.toNat ≤ a.toNat).map CountryRange.country := by
  rw [countryOf?, h.find?_eq_getElem?_place]
  cases t.ranges[t.place a]? with
  | none => rfl
  | some r =>
    rw [Option.filter_some]
    by_cases hfirst : r.first.toNat ≤ a.toNat <;> simp [hfirst]

end Ordered

end CountryRanges

end ZeroTrust
