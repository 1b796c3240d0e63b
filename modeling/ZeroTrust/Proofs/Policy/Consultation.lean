/-
  `Proofs.Policy.Consultation` — the order in which policies are consulted.

  Policies go by priority, then by id (`Policy.precedes_iff`), and policies with the
  same of both stay in the order in which they are listed. Sorting so commutes with
  leaving policies out (`filter_mergeSort`). In particular, the policies that make
  the rules of a gateway are those in force that are deployed to it, in the order in
  which they are in force (`Gateway.deployed_eq_filter_inForce`).
-/
import ZeroTrust.Gateway.Compile
import ZeroTrust.Store.Snapshot

namespace ZeroTrust

/-! ### Sorting and leaving out -/

section Sorting

variable {α : Type} {le : α → α → Bool}

/-- A list is cut in one way only where what holds before the cut fails after it. -/
theorem append_inj_of_split {p : α → Bool} {xs ys xs' ys' : List α}
    (h : xs ++ ys = xs' ++ ys') (hxs : ∀ x ∈ xs, p x = true) (hys : ∀ y ∈ ys, p y = false)
    (hxs' : ∀ x ∈ xs', p x = true) (hys' : ∀ y ∈ ys', p y = false) : xs = xs' ∧ ys = ys' := by
  have hfilter : ∀ us vs : List α, (∀ u ∈ us, p u = true) → (∀ v ∈ vs, p v = false) →
      (us ++ vs).filter p = us := by
    intro us vs hus hvs
    have hnil : vs.filter p = [] :=
      List.filter_eq_nil_iff.2 fun v hv => by simp [hvs v hv]
    rw [List.filter_append, List.filter_eq_self.2 hus, hnil, List.append_nil]
  have heq : xs = xs' := by
    rw [← hfilter xs ys hxs hys, h, hfilter xs' ys' hxs' hys']
  subst heq
  exact ⟨rfl, List.append_cancel_left h⟩

/-- What stands behind an element in a sorted list does not go before it. -/
theorem le_of_mergeSort_eq (trans : ∀ a b c, le a b → le b c → le a c)
    (total : ∀ a b, le a b || le b a) {a : α} {xs front back : List α}
    (h : xs.mergeSort le = front ++ a :: back) : ∀ b ∈ back, le a b = true := by
  have hsorted := List.pairwise_mergeSort trans total xs
  rw [h] at hsorted
  exact (List.pairwise_cons.1 (List.pairwise_append.1 hsorted).2.1).1

/-- **Sorting commutes with leaving elements out**, because it keeps the order of elements that it
does not tell apart. -/
theorem filter_mergeSort (trans : ∀ a b c, le a b → le b c → le a c)
    (total : ∀ a b, le a b || le b a) (q : α → Bool) (xs : List α) :
    (xs.mergeSort le).filter q = (xs.filter q).mergeSort le := by
  induction xs with
  | nil => simp
  | cons a xs ih =>
    obtain ⟨front, back, hcons, hsorted, hfront⟩ := List.mergeSort_cons trans total a xs
    have hback : ∀ b ∈ back, le a b = true := le_of_mergeSort_eq trans total hcons
    rw [hsorted, List.filter_append] at ih
    rw [hcons, List.filter_append, List.filter_cons, List.filter_cons]
    split
    case isFalse => exact ih
    case isTrue hq =>
      obtain ⟨front', back', hcons', hsorted', hfront'⟩ :=
        List.mergeSort_cons trans total a (xs.filter q)
      have hback' : ∀ b ∈ back', le a b = true := le_of_mergeSort_eq trans total hcons'
      -- The element stands behind those that go before it, and these are the same ones both times.
      obtain ⟨hsame, hsame'⟩ := append_inj_of_split (p := fun b => !le a b) (ih.trans hsorted')
        (fun b hb => hfront b ((List.mem_filter.1 hb).1))
        (fun b hb => by simp [hback b ((List.mem_filter.1 hb).1)])
        hfront' (fun b hb => by simp [hback' b hb])
      rw [hcons', hsame, hsame']

end Sorting

/-! ### The order of policies -/

namespace Policy

variable {P : Type} [Policy P]

theorem precedes_iff (p q : P) :
    precedes p q = true ↔ (priority p).toInt < (priority q).toInt ∨
      ((priority p).toInt = (priority q).toInt ∧ id p ≤ id q) := by
  simp [precedes, Int32.lt_iff_toInt_lt, Int32.toInt_inj]

theorem precedes_trans (p q r : P) (hpq : precedes p q = true) (hqr : precedes q r = true) :
    precedes p r = true := by
  rw [precedes_iff] at *
  rcases hpq with hpq | ⟨hpq, hid⟩
  · rcases hqr with hqr | ⟨hqr, -⟩ <;> omega
  · rcases hqr with hqr | ⟨hqr, hid'⟩
    · omega
    · exact .inr ⟨hpq.trans hqr, String.le_trans hid hid'⟩

theorem precedes_total (p q : P) : (precedes p q || precedes q p) = true := by
  rw [Bool.or_eq_true, precedes_iff, precedes_iff]
  rcases Int.lt_trichotomy (priority p).toInt (priority q).toInt with h | h | h
  · exact .inl (.inl h)
  · rcases String.le_total (id p) (id q) with hid | hid
    · exact .inl (.inr ⟨h, hid⟩)
    · exact .inr (.inr ⟨h.symm, hid⟩)
  · exact .inr (.inl h)

end Policy

theorem mem_inForce_iff {P : Type} [Policy P] (p : P) (policies : List P) :
    p ∈ inForce policies ↔ p ∈ policies ∧ Policy.enabled p = true := by
  rw [inForce, List.mem_mergeSort, List.mem_filter]

namespace Gateway

theorem mem_deployed_iff (o : Options) (p : AccessPolicy) (policies : List AccessPolicy) :
    p ∈ deployed o policies ↔
      p ∈ policies ∧ p.enabled = true ∧ p.deployedTo o.gateway = true := by
  rw [deployed, List.mem_mergeSort, List.mem_filter, Bool.and_eq_true]

section Members

variable {o : Options} {p : AccessPolicy} {policies : List AccessPolicy}
  (h : p ∈ deployed o policies)
include h

/-- What is compiled was listed. -/
theorem mem_of_mem_deployed : p ∈ policies :=
  ((mem_deployed_iff o p policies).1 h).1

/-- What is compiled is deployed to the gateway. -/
theorem deployedTo_of_mem_deployed : p.deployedTo o.gateway = true :=
  ((mem_deployed_iff o p policies).1 h).2.2

end Members

/-- The rules of a gateway come from the policies in force that are deployed to it, in their
order. -/
theorem deployed_eq_filter_inForce (o : Options) (policies : List AccessPolicy) :
    deployed o policies = (inForce policies).filter (·.deployedTo o.gateway) := by
  have hfilter : (policies.filter fun p => p.enabled && p.deployedTo o.gateway) =
      (policies.filter Policy.enabled).filter (·.deployedTo o.gateway) := by
    rw [List.filter_filter]
    exact List.filter_congr fun p _ => Bool.and_comm _ _
  rw [deployed, inForce, filter_mergeSort Policy.precedes_trans Policy.precedes_total, hfilter]

end Gateway

end ZeroTrust
