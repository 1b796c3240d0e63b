/-
  `Proofs.Evaluation.Boolean` — trees in the ordinary two-valued reading.

  `Tree.holds` reads a tree with nothing unknown about it: each condition is given
  a truth value, a conjunction holds when all its members do, a disjunction when
  some member does, and the empty disjunction as it is told.

  Three-valued evaluation is tied to it by taking what is unknown for a constant
  (`Truth.assume`). That commutes with both connectives, so a tree with its unknown
  conditions taken for a constant has its value taken for that constant
  (`Tree.assume_evaluate`). Whatever is to be said of a policy that applies when its
  tree is true, or when it is true or unknown, is said of two-valued trees.

  Two trees of one shape are compared leaf by leaf (`Tree.Alike`): where the leaves
  of the first imply those of the second, so does the tree (`Tree.holds_of_alike`).
  Two trees that differ in the order of children (`Tree.Reordered`) agree in whatever a
  branch has from its children in any order (`Tree.eq_of_reordered`).
-/
import Mathlib.Data.List.Forall2
import ZeroTrust.Evaluation.Truth

namespace ZeroTrust

/-! ### All and any, over lists -/

section Lists

variable {α β : Type} {p q : α → Bool} {xs : List α}

theorem all_eq_all_of_forall_mem (h : ∀ x ∈ xs, p x = q x) : xs.all p = xs.all q := by
  rw [Bool.eq_iff_iff, List.all_eq_true, List.all_eq_true]
  exact forall₂_congr fun x hx => by rw [h x hx]

theorem any_eq_any_of_forall_mem (h : ∀ x ∈ xs, p x = q x) : xs.any p = xs.any q := by
  rw [Bool.eq_iff_iff, List.any_eq_true, List.any_eq_true]
  exact exists_congr fun x => and_congr_right fun hx => by rw [h x hx]

variable {r : β → Bool} {ys : List β} {S : α → β → Prop}

theorem all_of_forall₂ (h : List.Forall₂ S xs ys)
    (himp : ∀ x ∈ xs, ∀ y, S x y → p x = true → r y = true) :
    xs.all p = true → ys.all r = true := by
  induction h with
  | nil => exact id
  | cons hxy _ ih =>
    simp only [List.all_cons, Bool.and_eq_true]
    rintro ⟨hx, hxs⟩
    exact ⟨himp _ List.mem_cons_self _ hxy hx,
      ih (fun x hmem => himp x (List.mem_cons_of_mem _ hmem)) hxs⟩

theorem any_of_forall₂ (h : List.Forall₂ S xs ys)
    (himp : ∀ x ∈ xs, ∀ y, S x y → p x = true → r y = true) :
    xs.any p = true → ys.any r = true := by
  induction h with
  | nil => exact id
  | cons hxy _ ih =>
    simp only [List.any_cons, Bool.or_eq_true]
    rintro (hx | hxs)
    · exact .inl (himp _ List.mem_cons_self _ hxy hx)
    · exact .inr (ih (fun x hmem => himp x (List.mem_cons_of_mem _ hmem)) hxs)

theorem exists_of_mem_left (h : List.Forall₂ S xs ys) {x : α} (hx : x ∈ xs) :
    ∃ y ∈ ys, S x y := by
  induction h with
  | nil => exact absurd hx List.not_mem_nil
  | cons hxy _ ih =>
    rcases List.mem_cons.1 hx with rfl | hx
    · exact ⟨_, List.mem_cons_self, hxy⟩
    · obtain ⟨y, hy, hxy⟩ := ih hx
      exact ⟨y, List.mem_cons_of_mem _ hy, hxy⟩

theorem exists_of_mem_right (h : List.Forall₂ S xs ys) {y : β} (hy : y ∈ ys) :
    ∃ x ∈ xs, S x y :=
  exists_of_mem_left h.flip hy

end Lists

/-! ### What is unknown, taken for a constant -/

namespace Truth

/-- The value with what is unknown taken for a constant. -/
def assume (b : Bool) : Truth → Bool
  | yes => true
  | no => false
  | unknown _ => b

@[simp] theorem assume_yes (b : Bool) : assume b yes = true := rfl

@[simp] theorem assume_no (b : Bool) : assume b no = false := rfl

@[simp] theorem assume_unknown (b : Bool) (fault : Fault) : assume b (unknown fault) = b := rfl

@[simp] theorem assume_ofBool (b a : Bool) : (ofBool a).assume b = a := by
  cases a <;> rfl

theorem assume_and (b : Bool) (u v : Truth) :
    (u.and v).assume b = (u.assume b && v.assume b) := by
  cases u <;> cases v <;> cases b <;> rfl

theorem assume_or (b : Bool) (u v : Truth) : (u.or v).assume b = (u.assume b || v.assume b) := by
  cases u <;> cases v <;> cases b <;> rfl

/-- A value is true exactly when it is so with the unknown taken for false. -/
theorem eq_yes_iff (v : Truth) : v = yes ↔ v.assume false = true := by
  cases v <;> simp [assume]

/-- A value is false exactly when it is so with the unknown taken for true. -/
theorem eq_no_iff (v : Truth) : v = no ↔ v.assume true = false := by
  cases v <;> simp [assume]

/-- A value is unknown exactly when it goes by what the unknown is taken for. -/
theorem exists_eq_unknown_iff (v : Truth) :
    (∃ fault, v = unknown fault) ↔ v.assume true = true ∧ v.assume false = false := by
  cases v <;> simp [assume]

theorem eq_unknown_of_and {u v : Truth} {fault : Fault} (h : u.and v = unknown fault) :
    u = unknown fault ∨ v = unknown fault := by
  cases u <;> cases v <;> simp_all [and]

theorem eq_unknown_of_or {u v : Truth} {fault : Fault} (h : u.or v = unknown fault) :
    u = unknown fault ∨ v = unknown fault := by
  cases u <;> cases v <;> simp_all [or]

end Truth

/-- A condition is unknown for the fault that its query has, whatever the facts. -/
theorem Condition.evaluate_eq_unknown_iff (c : Condition) (facts : Facts) (fault : Fault) :
    c.evaluate facts = .unknown fault ↔ c.query = .error fault := by
  rw [Condition.evaluate]
  cases c.query with
  | error f => simp
  | ok q =>
    simp only [Truth.ofBool]
    split <;> simp

namespace Tree

/-! ### The two-valued reading -/

mutual

/-- Whether a tree holds when its conditions are read in some way. -/
def holds (reads : Condition → Bool) (vacuousOr : Bool) : Tree → Bool
  | leaf c => reads c
  | branch .and cs => holdsAll reads vacuousOr cs
  | branch .or [] => vacuousOr
  | branch .or (c :: cs) => holdsAny reads vacuousOr (c :: cs)

/-- Whether all of some trees hold. -/
def holdsAll (reads : Condition → Bool) (vacuousOr : Bool) : List Tree → Bool
  | [] => true
  | t :: ts => holds reads vacuousOr t && holdsAll reads vacuousOr ts

/-- Whether one of some trees holds. -/
def holdsAny (reads : Condition → Bool) (vacuousOr : Bool) : List Tree → Bool
  | [] => false
  | t :: ts => holds reads vacuousOr t || holdsAny reads vacuousOr ts

end

section Holds

variable (reads : Condition → Bool) (vacuousOr : Bool)

theorem holdsAll_eq_all (ts : List Tree) :
    holdsAll reads vacuousOr ts = ts.all (holds reads vacuousOr) := by
  induction ts with
  | nil => rfl
  | cons t ts ih => rw [holdsAll, ih, List.all_cons]

theorem holdsAny_eq_any (ts : List Tree) :
    holdsAny reads vacuousOr ts = ts.any (holds reads vacuousOr) := by
  induction ts with
  | nil => rfl
  | cons t ts ih => rw [holdsAny, ih, List.any_cons]

@[simp] theorem holds_leaf (c : Condition) : holds reads vacuousOr (leaf c) = reads c := by
  rw [holds]

@[simp] theorem holds_and (cs : List Tree) :
    holds reads vacuousOr (branch .and cs) = cs.all (holds reads vacuousOr) := by
  rw [holds, holdsAll_eq_all]

@[simp] theorem holds_or_nil : holds reads vacuousOr (branch .or []) = vacuousOr := by
  rw [holds]

@[simp] theorem holds_or_cons (c : Tree) (cs : List Tree) :
    holds reads vacuousOr (branch .or (c :: cs)) = (c :: cs).any (holds reads vacuousOr) := by
  rw [holds, holdsAny_eq_any]

end Holds

/-- Two readings that agree on the conditions of a tree agree on the tree. -/
theorem holds_congr {reads reads' : Condition → Bool} (vacuousOr : Bool) (t : Tree) :
    (∀ c ∈ t.conditions, reads c = reads' c) →
      holds reads vacuousOr t = holds reads' vacuousOr t := by
  induction t using Tree.induction with
  | leaf c =>
    intro h
    simpa using h c (by simp)
  | branch o cs ih =>
    intro h
    have hchild : ∀ t ∈ cs, holds reads vacuousOr t = holds reads' vacuousOr t :=
      fun t ht => ih t ht fun c hc => h c (conditions_subset_branch ht hc)
    match o, cs, hchild with
    | .and, cs, hchild =>
      rw [holds_and, holds_and, all_eq_all_of_forall_mem hchild]
    | .or, [], _ => rw [holds_or_nil, holds_or_nil]
    | .or, c :: cs, hchild =>
      rw [holds_or_cons, holds_or_cons, any_eq_any_of_forall_mem hchild]

/-! ### Evaluation, with the unknown taken for a constant -/

theorem assume_evaluateAll (b : Bool) (facts : Facts) (ts : List Tree) :
    (evaluateAll facts ts).assume b = ts.all fun t => (evaluate facts t).assume b := by
  induction ts with
  | nil => rfl
  | cons t ts ih => rw [evaluateAll, Truth.assume_and, ih, List.all_cons]

theorem assume_evaluateAny (b : Bool) (facts : Facts) (ts : List Tree) :
    (evaluateAny facts ts).assume b = ts.any fun t => (evaluate facts t).assume b := by
  induction ts with
  | nil => rfl
  | cons t ts ih => rw [evaluateAny, Truth.assume_or, ih, List.any_cons]

/-- **Taking the unknown for a constant commutes with evaluation**: the value of a tree, with the
unknown taken for `b`, is the two-valued reading in which each condition is taken that way. -/
theorem assume_evaluate (b : Bool) (facts : Facts) (t : Tree) :
    (t.evaluate facts).assume b =
      t.holds (fun c => (c.evaluate facts).assume b) facts.vacuousOr := by
  induction t using Tree.induction with
  | leaf c => rw [evaluate, holds_leaf]
  | branch o cs ih =>
    -- The empty disjunction is told its value and has no children to go by.
    match o, cs, ih with
    | .and, cs, ih => rw [evaluate, assume_evaluateAll, holds_and, all_eq_all_of_forall_mem ih]
    | .or, [], _ => rw [evaluate, holds_or_nil, Truth.assume_ofBool]
    | .or, c :: cs, ih =>
      rw [evaluate, assume_evaluateAny, holds_or_cons, any_eq_any_of_forall_mem ih]

/-! ### Where a fault comes from -/

theorem exists_of_evaluateAll_eq_unknown {facts : Facts} {fault : Fault} {ts : List Tree}
    (h : evaluateAll facts ts = .unknown fault) : ∃ t ∈ ts, t.evaluate facts = .unknown fault := by
  induction ts with
  | nil => cases h
  | cons t ts ih =>
    rw [evaluateAll] at h
    rcases Truth.eq_unknown_of_and h with h | h
    · exact ⟨t, List.mem_cons_self, h⟩
    · obtain ⟨u, hu, hunknown⟩ := ih h
      exact ⟨u, List.mem_cons_of_mem _ hu, hunknown⟩

theorem exists_of_evaluateAny_eq_unknown {facts : Facts} {fault : Fault} {ts : List Tree}
    (h : evaluateAny facts ts = .unknown fault) : ∃ t ∈ ts, t.evaluate facts = .unknown fault := by
  induction ts with
  | nil => cases h
  | cons t ts ih =>
    rw [evaluateAny] at h
    rcases Truth.eq_unknown_of_or h with h | h
    · exact ⟨t, List.mem_cons_self, h⟩
    · obtain ⟨u, hu, hunknown⟩ := ih h
      exact ⟨u, List.mem_cons_of_mem _ hu, hunknown⟩

/-- A tree is unknown for the fault of one of its conditions. -/
theorem exists_query_eq_error {facts : Facts} {fault : Fault} {t : Tree}
    (h : t.evaluate facts = .unknown fault) : ∃ c ∈ t.conditions, c.query = .error fault := by
  induction t using Tree.induction with
  | leaf c =>
    rw [evaluate, Condition.evaluate_eq_unknown_iff] at h
    exact ⟨c, by simp, h⟩
  | branch o cs ih =>
    -- A branch is unknown by one of its children, since an empty one is told its value.
    have hchild : ∃ t ∈ cs, t.evaluate facts = .unknown fault := by
      match o, cs, h with
      | .and, cs, h => exact exists_of_evaluateAll_eq_unknown (by rwa [evaluate] at h)
      | .or, [], h => rw [evaluate, Truth.ofBool] at h; split at h <;> cases h
      | .or, c :: cs, h => exact exists_of_evaluateAny_eq_unknown (by rwa [evaluate] at h)
    obtain ⟨t, ht, hunknown⟩ := hchild
    obtain ⟨c, hc, hquery⟩ := ih t ht hunknown
    exact ⟨c, conditions_subset_branch ht hc, hquery⟩

/-! ### Facts that conditions do not tell apart -/

/-- The value of a branch goes by the values of its children. -/
theorem evaluate_branch_congr {facts facts' : Facts} (hvacuous : facts.vacuousOr = facts'.vacuousOr)
    {o : Connective} {cs ds : List Tree}
    (h : cs.map (evaluate facts) = ds.map (evaluate facts')) :
    (branch o cs).evaluate facts = (branch o ds).evaluate facts' := by
  match o, cs, ds, h with
  | .and, cs, ds, h => rw [evaluate, evaluate, evaluateAll_eq_foldr, evaluateAll_eq_foldr, h]
  | .or, [], [], _ => rw [evaluate, evaluate, hvacuous]
  | .or, c :: cs, d :: ds, h =>
    rw [evaluate, evaluate, evaluateAny_eq_foldr, evaluateAny_eq_foldr, h]

/-- A tree has one value for facts between which none of its conditions makes a difference. -/
theorem evaluate_congr {facts facts' : Facts} (hvacuous : facts.vacuousOr = facts'.vacuousOr)
    (t : Tree) : (∀ c ∈ t.conditions, c.evaluate facts = c.evaluate facts') →
      t.evaluate facts = t.evaluate facts' := by
  induction t using Tree.induction with
  | leaf c =>
    intro h
    rw [evaluate, evaluate, h c (by simp)]
  | branch o cs ih =>
    intro h
    refine evaluate_branch_congr hvacuous (List.map_congr_left fun t ht => ?_)
    exact ih t ht fun c hc => h c (conditions_subset_branch ht hc)

/-! ### Trees of one shape -/

/-- Two trees of one shape, with the same connectives, whose leaves are related in pairs. -/
inductive Alike (R : Condition → Condition → Prop) : Tree → Tree → Prop where
  | leaf {c d : Condition} (h : R c d) : Alike R (leaf c) (leaf d)
  | branch {o : Connective} {cs ds : List Tree} (h : List.Forall₂ (Alike R) cs ds) :
    Alike R (branch o cs) (branch o ds)

variable {R : Condition → Condition → Prop}

theorem alike_refl (hR : ∀ c, R c c) (t : Tree) : Alike R t t := by
  induction t using Tree.induction with
  | leaf c => exact .leaf (hR c)
  | branch o cs ih => exact .branch (List.forall₂_same.2 ih)

theorem Alike.flip {s t : Tree} (h : Alike R s t) : Alike (flip R) t s := by
  induction s using Tree.induction generalizing t with
  | leaf c =>
    obtain ⟨hcd⟩ := h
    exact .leaf hcd
  | branch o cs ih =>
    obtain - | ⟨hcs⟩ := h
    refine .branch (List.Forall₂.flip ?_)
    -- The hypothesis speaks of the children of one tree, so the pairs are taken from the lists.
    rw [List.forall₂_iff_zip] at hcs ⊢
    exact ⟨hcs.1, fun hab => ih _ (List.of_mem_zip hab).1 (hcs.2 hab)⟩

/-- What is true of all conditions of a tree stays true leaf by leaf. -/
theorem all_conditions_of_alike {p q : Condition → Bool}
    (hleaf : ∀ c d, R c d → p c = true → q d = true) {s t : Tree} (h : Alike R s t) :
    s.conditions.all p = true → t.conditions.all q = true := by
  induction s using Tree.induction generalizing t with
  | leaf c =>
    obtain ⟨hcd⟩ := h
    simpa using hleaf c _ hcd
  | branch o cs ih =>
    obtain - | ⟨hcs⟩ := h
    rw [conditions_branch, conditions_branch, List.all_flatMap, List.all_flatMap]
    exact all_of_forall₂ hcs fun c hc d hcd => ih c hc hcd

/-- **Where leaves imply leaves, the tree implies the tree.** Both connectives are monotone, so a
tree that holds keeps holding when each leaf that holds is exchanged for one that does. -/
theorem holds_of_alike {reads reads' : Condition → Bool} {vacuousOr : Bool}
    (hleaf : ∀ c d, R c d → reads c = true → reads' d = true) {s t : Tree} (h : Alike R s t) :
    holds reads vacuousOr s = true → holds reads' vacuousOr t = true := by
  induction s using Tree.induction generalizing t with
  | leaf c =>
    obtain ⟨hcd⟩ := h
    simpa using hleaf c _ hcd
  | branch o cs ih =>
    obtain - | ⟨hcs⟩ := h
    rename_i ds
    have himp : ∀ c ∈ cs, ∀ d, Alike R c d →
        holds reads vacuousOr c = true → holds reads' vacuousOr d = true :=
      fun c hc d hcd => ih c hc hcd
    -- The lists are equally long, so an empty disjunction faces an empty one.
    match o, cs, ds, hcs, himp with
    | .and, cs, ds, hcs, himp =>
      rw [holds_and, holds_and]
      exact all_of_forall₂ hcs himp
    | .or, [], [], _, _ => simp
    | .or, c :: cs, d :: ds, hcs, himp =>
      rw [holds_or_cons, holds_or_cons]
      exact any_of_forall₂ hcs himp

/-! ### Children in another order -/

/-- A tree, and the tree with the children of branches put in another order; `may` says of which
branches. -/
inductive Reordered (may : Connective → List Tree → Prop) : Tree → Tree → Prop where
  | leaf (c : Condition) : Reordered may (leaf c) (leaf c)
  | branch {o : Connective} {cs ds es : List Tree} (hcs : List.Forall₂ (Reordered may) cs ds)
    (hes : es = ds ∨ may o cs ∧ ds.Perm es) : Reordered may (branch o cs) (branch o es)

theorem reordered_refl {may : Connective → List Tree → Prop} (t : Tree) : Reordered may t t := by
  induction t using Tree.induction with
  | leaf c => exact .leaf c
  | branch o cs ih => exact .branch (List.forall₂_same.2 ih) (.inl rfl)

/-- **What does not go by the order of children** is the same for a tree and its reordering: it is
enough that a branch has it from what its children have, in whatever order where the branch may be
reordered. -/
theorem eq_of_reordered {may : Connective → List Tree → Prop} {β : Type} {f : Tree → β}
    (hbranch : ∀ o cs ds, (cs.map f = ds.map f ∨ may o cs ∧ (cs.map f).Perm (ds.map f)) →
      f (branch o cs) = f (branch o ds)) {s t : Tree} (h : Reordered may s t) : f s = f t := by
  induction s using Tree.induction generalizing t with
  | leaf c =>
    obtain ⟨⟩ := h
    rfl
  | branch o cs ih =>
    obtain - | ⟨hcs, hes⟩ := h
    rename_i ds es
    have hmap : cs.map f = ds.map f := by
      rw [← List.forall₂_eq_eq_eq, List.forall₂_map_left_iff, List.forall₂_map_right_iff]
      rw [List.forall₂_iff_zip] at hcs ⊢
      exact ⟨hcs.1, fun hab => ih _ (List.of_mem_zip hab).1 (hcs.2 hab)⟩
    -- The children are related in pairs first, and reordered after that.
    refine hbranch o cs es ?_
    rcases hes with rfl | ⟨hmay, hperm⟩
    · exact .inl hmap
    · exact .inr ⟨hmay, hmap ▸ hperm.map f⟩

end Tree

end ZeroTrust
