/-
  `Proofs.Store.Listing` — the order in which a store lists its policies.

  A store keeps its policies in the order of their ids and lists them by priority.
  Sorting leaves elements that it does not tell apart in the order in which it
  found them (`pairwise_mergeSort_of_pairwise`), so where priorities are equal the
  ids decide (`Store.pairwise_list`). Nothing is left out or listed twice
  (`Store.perm_list`).
-/
import ZeroTrust.Proofs.Store.Run

namespace ZeroTrust

/-! ### Sorting elements that come in some order -/

/-- **Sorting keeps the order of elements that it does not tell apart.** -/
theorem pairwise_mergeSort_of_pairwise {α : Type} {le : α → α → Bool} {r : α → α → Prop}
    (trans : ∀ a b c, le a b → le b c → le a c) (total : ∀ a b, le a b || le b a)
    {xs : List α} (h : xs.Pairwise r) :
    (xs.mergeSort le).Pairwise fun a b => le a b = true ∧ (le b a = true → r a b) := by
  induction xs with
  | nil => simp
  | cons a xs ih =>
    have ⟨ha, hxs⟩ := List.pairwise_cons.1 h
    obtain ⟨front, back, hcons, hsorted, hfront⟩ := List.mergeSort_cons trans total a xs
    have hle := List.pairwise_mergeSort trans total (a :: xs)
    have hrest := ih hxs
    rw [hcons, List.pairwise_append, List.pairwise_cons] at hle
    rw [hsorted, List.pairwise_append] at hrest
    rw [hcons, List.pairwise_append, List.pairwise_cons]
    refine ⟨hrest.1, ⟨fun b hb => ⟨hle.2.1.1 b hb, fun _ => ha b ?_⟩, hrest.2.1⟩, ?_⟩
    · -- What comes after the first element is one of those it came before.
      have hmem : b ∈ xs.mergeSort le := by
        rw [hsorted]
        exact List.mem_append_right _ hb
      exact List.mem_mergeSort.1 hmem
    · intro b hb c hc
      rcases List.mem_cons.1 hc with rfl | hc
      · -- What comes before it is told apart from it.
        refine ⟨hle.2.2 b hb c List.mem_cons_self, fun hcb => ?_⟩
        have hnot := hfront b hb
        rw [hcb] at hnot
        exact absurd hnot (by simp)
      · exact hrest.2.2 b hb c hc

namespace Store

variable {P : Type} [Policy P] {s : Store P}

/-! ### The list of a store -/

/-- Policies by priority, and by id where priorities are equal. No policy comes before itself. -/
def ListedBefore (p q : P) : Prop :=
  Policy.priority p < Policy.priority q ∨
    (Policy.priority p = Policy.priority q ∧ Policy.id p < Policy.id q)

theorem priority_trans (p q r : P) (hpq : decide (Policy.priority p ≤ Policy.priority q) = true)
    (hqr : decide (Policy.priority q ≤ Policy.priority r) = true) :
    decide (Policy.priority p ≤ Policy.priority r) = true := by
  rw [decide_eq_true_eq, Int32.le_iff_toInt_le] at *
  omega

theorem priority_total (p q : P) : (decide (Policy.priority p ≤ Policy.priority q) ||
    decide (Policy.priority q ≤ Policy.priority p)) = true := by
  rw [Bool.or_eq_true, decide_eq_true_eq, decide_eq_true_eq, Int32.le_iff_toInt_le,
    Int32.le_iff_toInt_le]
  omega

theorem perm_list (s : Store P) : s.list.Perm s.policies.values :=
  List.mergeSort_perm _ _

/-- The policies of a store come in the order of their ids. -/
theorem pairwise_values (hfiled : s.Filed) :
    s.policies.values.Pairwise fun p q => Policy.id p < Policy.id q := by
  rw [Registry.values, List.pairwise_map]
  refine s.policies.ascending.imp_of_mem fun {a b} ha hb hlt => ?_
  rw [hfiled a.1 a.2 ((s.policies.find?_eq_some_iff a.1 a.2).2 ha),
    hfiled b.1 b.2 ((s.policies.find?_eq_some_iff b.1 b.2).2 hb)]
  exact hlt

/-- **A store lists its policies by priority, and by id where priorities are equal.** -/
theorem pairwise_list (hfiled : s.Filed) : s.list.Pairwise ListedBefore := by
  have hsorted :=
    pairwise_mergeSort_of_pairwise priority_trans priority_total (pairwise_values hfiled)
  refine hsorted.imp fun {p q} ⟨hle, hid⟩ => ?_
  rw [decide_eq_true_eq, Int32.le_iff_toInt_le] at hle
  rw [decide_eq_true_eq, Int32.le_iff_toInt_le] at hid
  rw [ListedBefore, Int32.lt_iff_toInt_lt, ← Int32.toInt_inj]
  by_cases hlt : (Policy.priority p).toInt < (Policy.priority q).toInt
  · exact .inl hlt
  · have heq : (Policy.priority p).toInt = (Policy.priority q).toInt := by omega
    exact .inr ⟨heq, hid (by omega)⟩

end Store

end ZeroTrust
