/-
  `Proofs.Evaluation.Completions` — three values as reasoning under uncertainty.

  A leaf that is unknown is open: it may stand for either truth value. An assignment
  gives each open leaf one of them, by the way to the leaf from the root, so that two
  leaves with one condition need not agree. Under an assignment a tree has an ordinary
  truth value (`Tree.completed`).

  Both connectives are monotone. So a tree lies, under any assignment, between what it
  is with all open leaves false and what it is with all of them true, and those two
  are its three-valued value with the unknown taken for a constant
  (`Tree.completed_const`). A tree is true exactly when it is true under every
  assignment, false exactly when it is false under every one, and unknown when both
  occur (`Tree.evaluate_iff_completed`).

  The fault of a tree that is unknown is the one of the leaf at the end of the way
  that goes, at each branch, into the first child that is unknown
  (`Tree.openCondition?`).
-/
import Mathlib.Order.Lattice
import ZeroTrust.Proofs.Evaluation.Boolean

namespace ZeroTrust

/-! ### Values that are unknown -/

namespace Truth

/-- Whether a value is unknown. -/
def isUnknown : Truth → Bool
  | unknown _ => true
  | _ => false

/-- The first of two values has the say about the fault of both. -/
theorem and_eq_unknown_cases {u v : Truth} {fault : Fault} (h : u.and v = unknown fault) :
    u = unknown fault ∨ u.isUnknown = false ∧ v = unknown fault := by
  cases u <;> cases v <;> simp_all [and, isUnknown]

theorem or_eq_unknown_cases {u v : Truth} {fault : Fault} (h : u.or v = unknown fault) :
    u = unknown fault ∨ u.isUnknown = false ∧ v = unknown fault := by
  cases u <;> cases v <;> simp_all [or, isUnknown]

end Truth

namespace Tree

/-! ### Assignments to open leaves -/

mutual

/-- The truth value of a tree whose open leaves are given truth values, each by the way to it. -/
def completed (facts : Facts) (assigned : List Nat → Bool) : Tree → Bool
  | leaf c => (c.evaluate facts).assume (assigned [])
  | branch .and cs => completedAll facts (fun i way => assigned (i :: way)) cs
  | branch .or [] => facts.vacuousOr
  | branch .or (c :: cs) => completedAny facts (fun i way => assigned (i :: way)) (c :: cs)

/-- Whether all of some trees hold, with truth values given to the open leaves of each. -/
def completedAll (facts : Facts) (assigned : Nat → List Nat → Bool) : List Tree → Bool
  | [] => true
  | t :: ts =>
    -- Ways count children from the first of them, and what is left begins with the second.
    completed facts (assigned 0) t && completedAll facts (fun i => assigned (i + 1)) ts

/-- Whether one of some trees holds, with truth values given to the open leaves of each. -/
def completedAny (facts : Facts) (assigned : Nat → List Nat → Bool) : List Tree → Bool
  | [] => false
  | t :: ts =>
    completed facts (assigned 0) t || completedAny facts (fun i => assigned (i + 1)) ts

end

variable (facts : Facts)

/-! ### One truth value for all open leaves -/

theorem completedAll_const (b : Bool) (ts : List Tree) :
    completedAll facts (fun _ _ => b) ts = ts.all (completed facts fun _ => b) := by
  induction ts with
  | nil => rfl
  | cons t ts ih => rw [completedAll, ih, List.all_cons]

theorem completedAny_const (b : Bool) (ts : List Tree) :
    completedAny facts (fun _ _ => b) ts = ts.any (completed facts fun _ => b) := by
  induction ts with
  | nil => rfl
  | cons t ts ih => rw [completedAny, ih, List.any_cons]

/-- With one truth value for all open leaves, a tree is what it evaluates to, the unknown taken for
that value. -/
theorem completed_const (b : Bool) (t : Tree) :
    t.completed facts (fun _ => b) = (t.evaluate facts).assume b := by
  induction t using Tree.induction with
  | leaf c => rw [completed, evaluate]
  | branch o cs ih =>
    cases o with
    | and =>
      rw [completed, completedAll_const, evaluate, assume_evaluateAll, all_eq_all_of_forall_mem ih]
    | or =>
      cases cs with
      | nil => rw [completed, evaluate, Truth.assume_ofBool]
      | cons c cs =>
        rw [completed, completedAny_const, evaluate, assume_evaluateAny,
          any_eq_any_of_forall_mem ih]

/-! ### More open leaves taken for true -/

variable {facts}

theorem monotone_completedAll {ts : List Tree}
    (ih : ∀ t ∈ ts, Monotone fun assigned => t.completed facts assigned) :
    Monotone fun assigned => completedAll facts assigned ts := by
  intro assigned assigned' h
  -- The order of truth values puts false first, so it is implication.
  show completedAll facts assigned ts = true → completedAll facts assigned' ts = true
  induction ts generalizing assigned assigned' with
  | nil => exact id
  | cons t ts ihts =>
    rw [completedAll, completedAll, Bool.and_eq_true, Bool.and_eq_true]
    rintro ⟨ht, hts⟩
    exact ⟨ih t List.mem_cons_self (h 0) ht,
      ihts (fun u hu => ih u (List.mem_cons_of_mem _ hu)) (fun i => h (i + 1)) hts⟩

theorem monotone_completedAny {ts : List Tree}
    (ih : ∀ t ∈ ts, Monotone fun assigned => t.completed facts assigned) :
    Monotone fun assigned => completedAny facts assigned ts := by
  intro assigned assigned' h
  show completedAny facts assigned ts = true → completedAny facts assigned' ts = true
  induction ts generalizing assigned assigned' with
  | nil => exact id
  | cons t ts ihts =>
    rw [completedAny, completedAny, Bool.or_eq_true, Bool.or_eq_true]
    rintro (ht | hts)
    · exact .inl (ih t List.mem_cons_self (h 0) ht)
    · exact .inr (ihts (fun u hu => ih u (List.mem_cons_of_mem _ hu)) (fun i => h (i + 1)) hts)

/-- **A tree that holds keeps holding** when open leaves turn from false to true. -/
theorem monotone_completed (t : Tree) : Monotone fun assigned => t.completed facts assigned := by
  induction t using Tree.induction with
  | leaf c =>
    intro assigned assigned' h
    simp only [completed]
    -- Only an open leaf looks at the assignment.
    cases c.evaluate facts with
    | yes => exact id
    | no => exact id
    | unknown fault => exact h []
  | branch o cs ih =>
    intro assigned assigned' h
    cases o with
    | and =>
      simp only [completed]
      -- The ways to the leaves of a child begin with its number.
      exact monotone_completedAll ih fun i way => h (i :: way)
    | or =>
      cases cs with
      | nil =>
        simp only [completed]
        exact id
      | cons c cs =>
        simp only [completed]
        exact monotone_completedAny ih fun i way => h (i :: way)

/-- A tree that is true with its open leaves false is true under every assignment. -/
theorem completed_of_assume_false {t : Tree} (h : (t.evaluate facts).assume false = true)
    (assigned : List Nat → Bool) : t.completed facts assigned = true :=
  monotone_completed t (fun _ => Bool.false_le _) ((completed_const facts false t).trans h)

/-- A tree that is false with its open leaves true is false under every assignment. -/
theorem completed_of_assume_true {t : Tree} (h : (t.evaluate facts).assume true = false)
    (assigned : List Nat → Bool) : t.completed facts assigned = false := by
  rw [← Bool.not_eq_true]
  intro hassigned
  have htrue : t.completed facts (fun _ => true) = true :=
    monotone_completed t (fun _ => Bool.le_true _) hassigned
  rw [completed_const, h] at htrue
  cases htrue

/-! ### The three values -/

/-- A tree is true when it is so under every assignment. -/
theorem evaluate_eq_yes_iff (t : Tree) :
    t.evaluate facts = .yes ↔ ∀ assigned, t.completed facts assigned = true := by
  rw [Truth.eq_yes_iff]
  constructor
  · exact completed_of_assume_false
  · intro h
    rw [← completed_const]
    exact h _

/-- A tree is false when it is so under every assignment. -/
theorem evaluate_eq_no_iff (t : Tree) :
    t.evaluate facts = .no ↔ ∀ assigned, t.completed facts assigned = false := by
  rw [Truth.eq_no_iff]
  constructor
  · exact completed_of_assume_true
  · intro h
    rw [← completed_const]
    exact h _

/-- A tree is unknown when it is true under one assignment and false under another. -/
theorem exists_evaluate_eq_unknown_iff_completed (t : Tree) :
    (∃ fault, t.evaluate facts = .unknown fault) ↔
      (∃ assigned, t.completed facts assigned = true) ∧
        ∃ assigned, t.completed facts assigned = false := by
  rw [Truth.exists_eq_unknown_iff]
  constructor
  · rintro ⟨htrue, hfalse⟩
    exact ⟨⟨_, (completed_const facts true t).trans htrue⟩,
      ⟨_, (completed_const facts false t).trans hfalse⟩⟩
  · rintro ⟨⟨assigned, htrue⟩, assigned', hfalse⟩
    -- All open leaves true, or all of them false, decide for every assignment.
    refine ⟨?_, ?_⟩
    · by_contra hne
      rw [completed_of_assume_true (Bool.not_eq_true _ ▸ hne) assigned] at htrue
      cases htrue
    · by_contra hne
      rw [completed_of_assume_false (Bool.not_eq_false _ ▸ hne) assigned'] at hfalse
      cases hfalse

/-! ### The order of children -/

/-- Reordering children, wherever, leaves the value, the unknown taken for a constant. -/
theorem assume_evaluate_of_reordered {s t : Tree} (h : Reordered (fun _ _ => True) s t)
    (b : Bool) : (s.evaluate facts).assume b = (t.evaluate facts).assume b := by
  refine eq_of_reordered (f := fun t => (t.evaluate facts).assume b) (fun o cs ds hmap => ?_) h
  -- In order or not, the children have the same values.
  have hperm : (cs.map fun t => (t.evaluate facts).assume b).Perm
      (ds.map fun t => (t.evaluate facts).assume b) := by
    rcases hmap with hmap | ⟨-, hperm⟩
    · rw [hmap]
    · exact hperm
  match o, cs, ds, hperm with
  | .and, cs, ds, hperm =>
    have hall := hperm.all_eq (f := id)
    rw [List.all_map, List.all_map] at hall
    rw [evaluate, evaluate, assume_evaluateAll, assume_evaluateAll]
    exact hall
  | .or, [], [], _ => rfl
  -- The new order has as many children as the old one.
  | .or, [], d :: ds, hperm => exact absurd hperm.length_eq (by simp)
  | .or, c :: cs, [], hperm => exact absurd hperm.length_eq (by simp)
  | .or, c :: cs, d :: ds, hperm =>
    have hany := hperm.any_eq (f := id)
    rw [List.any_map, List.any_map] at hany
    rw [evaluate, evaluate, assume_evaluateAny, assume_evaluateAny]
    exact hany

/-! ### The leaf that a fault comes from -/

mutual

/-- The condition that is met on the way from the root that goes, at each branch, into the first
child that is unknown. -/
def openCondition? (facts : Facts) : Tree → Option Condition
  | leaf c => some c
  | branch _ cs => openConditionIn? facts cs

/-- The condition that is met in the first of some trees that is unknown. -/
def openConditionIn? (facts : Facts) : List Tree → Option Condition
  | [] => none
  | t :: ts =>
    if (t.evaluate facts).isUnknown then openCondition? facts t else openConditionIn? facts ts

end

/-- Whether a tree that is unknown has the fault of the condition met on the way into it. -/
def FaultMet (facts : Facts) (t : Tree) : Prop :=
  ∀ fault, t.evaluate facts = .unknown fault →
    ∃ c, t.openCondition? facts = some c ∧ c.evaluate facts = .unknown fault

theorem exists_openConditionIn?_of_all {ts : List Tree} (ih : ∀ t ∈ ts, FaultMet facts t)
    {fault : Fault} (h : evaluateAll facts ts = .unknown fault) :
    ∃ c, openConditionIn? facts ts = some c ∧ c.evaluate facts = .unknown fault := by
  induction ts with
  | nil => cases h
  | cons t ts ihts =>
    rw [evaluateAll] at h
    rw [openConditionIn?]
    -- The first tree is unknown, or else it leaves the value to those that follow.
    rcases Truth.and_eq_unknown_cases h with ht | ⟨ht, hts⟩
    · rw [ht]
      exact ih t List.mem_cons_self fault ht
    · rw [ht]
      exact ihts (fun u hu => ih u (List.mem_cons_of_mem _ hu)) hts

theorem exists_openConditionIn?_of_any {ts : List Tree} (ih : ∀ t ∈ ts, FaultMet facts t)
    {fault : Fault} (h : evaluateAny facts ts = .unknown fault) :
    ∃ c, openConditionIn? facts ts = some c ∧ c.evaluate facts = .unknown fault := by
  induction ts with
  | nil => cases h
  | cons t ts ihts =>
    rw [evaluateAny] at h
    rw [openConditionIn?]
    rcases Truth.or_eq_unknown_cases h with ht | ⟨ht, hts⟩
    · rw [ht]
      exact ih t List.mem_cons_self fault ht
    · rw [ht]
      exact ihts (fun u hu => ih u (List.mem_cons_of_mem _ hu)) hts

/-- **The fault of a tree** is the one of the condition met on the way into the first child that is
unknown. -/
theorem faultMet (t : Tree) : FaultMet facts t := by
  induction t using Tree.induction with
  | leaf c =>
    intro fault h
    rw [evaluate] at h
    exact ⟨c, by rw [openCondition?], h⟩
  | branch o cs ih =>
    intro fault h
    rw [openCondition?]
    cases o with
    | and => exact exists_openConditionIn?_of_all ih (by rwa [evaluate] at h)
    | or =>
      cases cs with
      | nil =>
        rw [evaluate, Truth.ofBool] at h
        split at h <;> cases h
      | cons c cs => exact exists_openConditionIn?_of_any ih (by rwa [evaluate] at h)

/-! ### Reasoning under uncertainty -/

/-- **Evaluation is reasoning under uncertainty.** A tree is true when it is true whatever its open
leaves stand for, false when it is false whatever they stand for, and unknown when it can be either;
so the order of children makes no difference. When it is unknown, its fault is the one of the leaf
that is met by going into the first child that is unknown, again and again. -/
theorem evaluate_iff_completed (facts : Facts) (t : Tree) :
    (t.evaluate facts = .yes ↔ ∀ assigned, t.completed facts assigned = true) ∧
      (t.evaluate facts = .no ↔ ∀ assigned, t.completed facts assigned = false) ∧
      ((∃ fault, t.evaluate facts = .unknown fault) ↔
        (∃ assigned, t.completed facts assigned = true) ∧
          ∃ assigned, t.completed facts assigned = false) ∧
      (∀ t', Reordered (fun _ _ => True) t t' →
        (t.evaluate facts = .yes ↔ t'.evaluate facts = .yes) ∧
          (t.evaluate facts = .no ↔ t'.evaluate facts = .no)) ∧
      ∀ fault, t.evaluate facts = .unknown fault →
        ∃ c, t.openCondition? facts = some c ∧ c.evaluate facts = .unknown fault := by
  refine ⟨evaluate_eq_yes_iff t, evaluate_eq_no_iff t, exists_evaluate_eq_unknown_iff_completed t,
    fun t' h => ⟨?_, ?_⟩, faultMet t⟩
  · rw [Truth.eq_yes_iff, Truth.eq_yes_iff, assume_evaluate_of_reordered h]
  · rw [Truth.eq_no_iff, Truth.eq_no_iff, assume_evaluate_of_reordered h]

/-- A managed device from a country that is none, or one with a system that is none. -/
def doubtful : Tree :=
  .branch .or [
    .branch .and [.leaf (.ofOp .managed ""), .leaf (.ofOp .country "Home")],
    .leaf (.ofOp .os "plan9")]

/-- The same, the system first. -/
def doubtfulReversed : Tree :=
  .branch .or [
    .leaf (.ofOp .os "plan9"),
    .branch .and [.leaf (.ofOp .managed ""), .leaf (.ofOp .country "Home")]]

/-- What is known of a managed device. -/
def managedFacts : Facts :=
  ⟨{ Request.empty with device := some ⟨some .linux, true⟩ }, none, true⟩

/-- A managed device leaves the tree open in both orders, each with the fault that comes first. -/
theorem evaluate_iff_completed_doubtful :
    doubtful.evaluate managedFacts = .unknown (.unknownCountry "Home") ∧
      (∃ assigned, doubtful.completed managedFacts assigned = true) ∧
      (∃ assigned, doubtful.completed managedFacts assigned = false) ∧
      doubtfulReversed.evaluate managedFacts ≠ .yes ∧
      doubtfulReversed.evaluate managedFacts ≠ .no ∧
      ∃ c, doubtful.openCondition? managedFacts = some c ∧
        c.evaluate managedFacts = .unknown (.unknownCountry "Home") := by
  obtain ⟨-, -, hopen, horder, hfault⟩ := evaluate_iff_completed managedFacts doubtful
  have hvalue : doubtful.evaluate managedFacts = .unknown (.unknownCountry "Home") := by
    decide +kernel
  have hreordered : Reordered (fun _ _ => True) doubtful doubtfulReversed :=
    .branch (List.forall₂_same.2 fun t _ => reordered_refl t) (.inr ⟨trivial, .swap _ _ _⟩)
  obtain ⟨hyes, hno⟩ := horder _ hreordered
  rw [hvalue] at hyes hno
  obtain ⟨htrue, hfalse⟩ := hopen.1 ⟨_, hvalue⟩
  exact ⟨hvalue, htrue, hfalse, fun h => Truth.noConfusion (hyes.2 h),
    fun h => Truth.noConfusion (hno.2 h), hfault _ hvalue⟩

end Tree

end ZeroTrust
