/-
  `Proofs.Gateway.Size` — how many rules a policy makes, and when they are too many.

  The alternatives of a tree can be counted without building them: those of a
  disjunction are added up, those of a conjunction multiplied (`alternatives`). Where
  a tree has an expansion, it has that many terms (`length_expand`).

  The bound holds for each list that is built on the way, and not for the last one
  alone: for the terms of each disjunction, and for those of the first members of each
  conjunction, however many. A tree has no expansion exactly when one of these lists is
  too long (`expand_eq_none_iff`).

  A list on the way is longer than the last one only where a member of a conjunction
  has no alternatives: it leaves nothing of a conjunction whose first members may have
  been too many (`compilePolicy_of_void_member`). In a tree without such a member the
  number of alternatives decides alone, and the order of children makes no difference
  (`compilePolicy_eq_error_iff`). A tree without children has its one alternative, or
  none, under any bound (`exists_rules_of_childless`).
-/
import Mathlib.Algebra.BigOperators.Group.List.Lemmas
import Mathlib.Algebra.GroupWithZero.Nat
import Mathlib.Algebra.Order.BigOperators.Group.List
import Mathlib.Algebra.Order.Group.Nat
import ZeroTrust.Gateway.Compile
import ZeroTrust.Proofs.Evaluation.Boolean

namespace ZeroTrust.Gateway

/-! ### Counting -/

mutual

/-- The number of alternatives of a tree. -/
def alternatives (o : ExpandOptions) : Tree → Nat
  | .leaf c =>
    match tag c with
    | .ok _ => 1
    | .error _ => if o.unknownAs then 1 else 0
  | .branch .and cs => alternativesAll o cs
  | .branch .or [] => if o.vacuousOr then 1 else 0
  | .branch .or (c :: cs) => alternativesAny o (c :: cs)

/-- The number of ways to take one alternative of each of some trees. -/
def alternativesAll (o : ExpandOptions) : List Tree → Nat
  | [] => 1
  | t :: ts => alternatives o t * alternativesAll o ts

/-- The number of alternatives of some trees together. -/
def alternativesAny (o : ExpandOptions) : List Tree → Nat
  | [] => 0
  | t :: ts => alternatives o t + alternativesAny o ts

end

section Counting

variable (o : ExpandOptions)

theorem alternativesAll_eq_prod (ts : List Tree) :
    alternativesAll o ts = (ts.map (alternatives o)).prod := by
  induction ts with
  | nil => rfl
  | cons t ts ih => rw [alternativesAll, ih, List.map_cons, List.prod_cons]

theorem alternativesAny_eq_sum (ts : List Tree) :
    alternativesAny o ts = (ts.map (alternatives o)).sum := by
  induction ts with
  | nil => rfl
  | cons t ts ih => rw [alternativesAny, ih, List.map_cons, List.sum_cons]

@[simp] theorem alternatives_and (cs : List Tree) :
    alternatives o (.branch .and cs) = (cs.map (alternatives o)).prod := by
  rw [alternatives, alternativesAll_eq_prod]

@[simp] theorem alternatives_or_nil :
    alternatives o (.branch .or []) = if o.vacuousOr then 1 else 0 := by
  rw [alternatives]

@[simp] theorem alternatives_or_cons (c : Tree) (cs : List Tree) :
    alternatives o (.branch .or (c :: cs)) = ((c :: cs).map (alternatives o)).sum := by
  rw [alternatives, alternativesAny_eq_sum]

end Counting

/-! ### The terms of an expansion -/

theorem length_constant (b : Bool) : (constant b).length = if b then 1 else 0 := by
  cases b <;> rfl

theorem length_conditionTerms (o : ExpandOptions) (c : Condition) :
    (conditionTerms o.unknownAs c).length = alternatives o (.leaf c) := by
  rw [conditionTerms, alternatives]
  cases tag c with
  | ok t => rfl
  | error fault => exact length_constant o.unknownAs

theorem length_product (terms others : List Term) :
    (product terms others).length = terms.length * others.length := by
  simp [product, List.length_flatMap]

variable {o : ExpandOptions}

theorem length_expandAll {ts : List Tree}
    (h : ∀ t ∈ ts, ∀ terms, expand o t = some terms → terms.length = alternatives o t)
    (sofar : List Term) {terms : List Term} (hterms : expandAll o sofar ts = some terms) :
    terms.length = sofar.length * (ts.map (alternatives o)).prod := by
  induction ts generalizing sofar with
  | nil =>
    rw [expandAll] at hterms
    rw [← Option.some.inj hterms, List.map_nil, List.prod_nil, Nat.mul_one]
  | cons t ts ih =>
    obtain ⟨others, ht, -, hterms⟩ := expandAll_cons_eq_some_iff.1 hterms
    rw [ih (fun u hu => h u (List.mem_cons_of_mem _ hu)) _ hterms, length_product,
      h t List.mem_cons_self others ht, List.map_cons, List.prod_cons, Nat.mul_assoc]

theorem length_expandAny {ts : List Tree}
    (h : ∀ t ∈ ts, ∀ terms, expand o t = some terms → terms.length = alternatives o t)
    (sofar : List Term) {terms : List Term} (hterms : expandAny o sofar ts = some terms) :
    terms.length = sofar.length + (ts.map (alternatives o)).sum := by
  induction ts generalizing sofar with
  | nil =>
    rw [expandAny] at hterms
    rw [← Option.some.inj hterms, List.map_nil, List.sum_nil, Nat.add_zero]
  | cons t ts ih =>
    obtain ⟨others, ht, -, hterms⟩ := expandAny_cons_eq_some_iff.1 hterms
    rw [ih (fun u hu => h u (List.mem_cons_of_mem _ hu)) _ hterms, List.length_append,
      h t List.mem_cons_self others ht, List.map_cons, List.sum_cons, Nat.add_assoc]

/-- **An expansion has as many terms as the tree has alternatives.** -/
theorem length_expand (t : Tree) (terms : List Term) (hterms : expand o t = some terms) :
    terms.length = alternatives o t := by
  induction t using Tree.induction generalizing terms with
  | leaf c =>
    rw [expand] at hterms
    rw [← Option.some.inj hterms, length_conditionTerms]
  | branch connective cs ih =>
    match connective, cs, ih, hterms with
    | .and, cs, ih, hterms =>
      rw [expand] at hterms
      rw [length_expandAll ih [[]] hterms, alternatives_and]
      exact Nat.one_mul _
    | .or, [], _, hterms =>
      rw [expand] at hterms
      rw [← Option.some.inj hterms, length_constant, alternatives_or_nil]
    | .or, c :: cs, ih, hterms =>
      rw [expand] at hterms
      rw [length_expandAny ih [] hterms, alternatives_or_cons]
      exact Nat.zero_add _

/-! ### Lists that are too long -/

/-- Whether some list that is built for a tree is longer than the bound. -/
inductive Oversized (o : ExpandOptions) : Tree → Prop where
  /-- The terms of a disjunction. -/
  | or {cs : List Tree} (hne : cs ≠ []) (h : o.maxTerms < (cs.map (alternatives o)).sum) :
    Oversized o (.branch .or cs)
  /-- The terms of the first members of a conjunction. -/
  | and {cs : List Tree} {k : Nat} (hk : k < cs.length)
    (h : o.maxTerms < ((cs.map (alternatives o)).take (k + 1)).prod) :
    Oversized o (.branch .and cs)
  /-- A list that is built for a child. -/
  | child {connective : Connective} {cs : List Tree} {t : Tree} (ht : t ∈ cs)
    (h : Oversized o t) : Oversized o (.branch connective cs)

theorem not_oversized_of_childless {t : Tree}
    (h : ∀ connective c cs, t ≠ .branch connective (c :: cs)) : ¬ Oversized o t := by
  intro hlong
  cases hlong with
  | @or cs hne _ =>
    obtain ⟨c, cs, rfl⟩ := List.exists_cons_of_ne_nil hne
    exact h _ _ _ rfl
  | @and cs k hk _ =>
    obtain ⟨c, cs, rfl⟩ := List.exists_cons_of_length_pos (Nat.zero_lt_of_lt hk)
    exact h _ _ _ rfl
  | @child connective cs t ht _ =>
    obtain ⟨c, cs, rfl⟩ := List.exists_cons_of_ne_nil (List.ne_nil_of_mem ht)
    exact h _ _ _ rfl

theorem oversized_or_iff (cs : List Tree) :
    Oversized o (.branch .or cs) ↔
      (∃ t ∈ cs, Oversized o t) ∨ cs ≠ [] ∧ o.maxTerms < (cs.map (alternatives o)).sum := by
  constructor
  · intro h
    cases h with
    | or hne h => exact .inr ⟨hne, h⟩
    | child ht h => exact .inl ⟨_, ht, h⟩
  · rintro (⟨t, ht, h⟩ | ⟨hne, h⟩)
    · exact .child ht h
    · exact .or hne h

theorem oversized_and_iff (cs : List Tree) :
    Oversized o (.branch .and cs) ↔
      (∃ t ∈ cs, Oversized o t) ∨
        ∃ k < cs.length, o.maxTerms < ((cs.map (alternatives o)).take (k + 1)).prod := by
  constructor
  · intro h
    cases h with
    | and hk h => exact .inr ⟨_, hk, h⟩
    | child ht h => exact .inl ⟨_, ht, h⟩
  · rintro (⟨t, ht, h⟩ | ⟨k, hk, h⟩)
    · exact .child ht h
    · exact .and hk h

theorem expandAny_eq_none_iff (sofar : List Term) (ts : List Tree) :
    expandAny o sofar ts = none ↔
      (∃ t ∈ ts, expand o t = none) ∨
        ts ≠ [] ∧ o.maxTerms < sofar.length + (ts.map (alternatives o)).sum := by
  induction ts generalizing sofar with
  | nil => simp [expandAny]
  | cons t ts ih =>
    rw [expandAny, Option.bind_eq_bind, List.exists_mem_cons_iff, List.map_cons, List.sum_cons]
    cases ht : expand o t with
    | none => simp
    | some others =>
      have hlength := length_expand t others ht
      rw [Option.bind_some]
      split
      case isTrue hlong =>
        rw [List.length_append] at hlong
        -- The terms so far are too many already.
        exact iff_of_true rfl (.inr ⟨List.cons_ne_nil _ _, by omega⟩)
      case isFalse hshort =>
        rw [List.length_append] at hshort
        rw [ih, List.length_append, hlength, Nat.add_assoc]
        -- The terms so far fit, so what is too long has terms of later children.
        have hlater : ts = [] → ¬ o.maxTerms <
            sofar.length + (alternatives o t + (ts.map (alternatives o)).sum) := by
          rintro rfl
          rw [List.map_nil, List.sum_nil]
          omega
        grind

theorem expandAll_eq_none_iff (sofar : List Term) (ts : List Tree) :
    expandAll o sofar ts = none ↔
      (∃ t ∈ ts, expand o t = none) ∨
        ∃ k < ts.length,
          o.maxTerms < sofar.length * ((ts.map (alternatives o)).take (k + 1)).prod := by
  induction ts generalizing sofar with
  | nil => simp [expandAll]
  | cons t ts ih =>
    rw [expandAll, Option.bind_eq_bind, List.exists_mem_cons_iff, List.map_cons]
    cases ht : expand o t with
    | none => simp
    | some others =>
      have hlength := length_expand t others ht
      rw [Option.bind_some]
      split
      case isTrue hlong =>
        rw [hlength] at hlong
        exact iff_of_true rfl (.inr ⟨0, Nat.succ_pos _, by simpa using hlong⟩)
      case isFalse hshort =>
        rw [hlength] at hshort
        rw [ih, length_product, hlength]
        -- The first member fits, so what is too long has later members.
        have hmore : (∃ k < (t :: ts).length, o.maxTerms <
              sofar.length * ((alternatives o t :: ts.map (alternatives o)).take (k + 1)).prod) ↔
            ∃ k < ts.length, o.maxTerms <
              sofar.length * alternatives o t * ((ts.map (alternatives o)).take (k + 1)).prod := by
          constructor
          · rintro ⟨k, hk, h⟩
            cases k with
            | zero => exact absurd (by simpa using h) hshort
            | succ k =>
              refine ⟨k, Nat.lt_of_succ_lt_succ hk, ?_⟩
              rwa [List.take_succ_cons, List.prod_cons, ← Nat.mul_assoc] at h
          · rintro ⟨k, hk, h⟩
            refine ⟨k + 1, Nat.succ_lt_succ hk, ?_⟩
            rwa [List.take_succ_cons, List.prod_cons, ← Nat.mul_assoc]
        rw [hmore]
        simp

/-- **A tree has no expansion exactly when some list built on the way is too long.** -/
theorem expand_eq_none_iff (t : Tree) : expand o t = none ↔ Oversized o t := by
  induction t using Tree.induction with
  | leaf c => exact iff_of_false (by simp [expand]) (not_oversized_of_childless nofun)
  | branch connective cs ih =>
    have hchild : (∃ t ∈ cs, expand o t = none) ↔ ∃ t ∈ cs, Oversized o t :=
      exists_congr fun t => and_congr_right (ih t)
    match connective, cs, hchild with
    | .and, cs, hchild =>
      rw [expand, expandAll_eq_none_iff, oversized_and_iff, hchild]
      simp
    | .or, [], _ => simp [expand, oversized_or_iff]
    | .or, c :: cs, hchild =>
      rw [expand, expandAny_eq_none_iff, oversized_or_iff, hchild, List.length_nil, Nat.zero_add]

/-! ### Members without alternatives -/

/-- Whether some conjunction of a tree has a member without alternatives. -/
inductive HasVoidMember (o : ExpandOptions) : Tree → Prop where
  | here {cs : List Tree} {t : Tree} (ht : t ∈ cs) (h : alternatives o t = 0) :
    HasVoidMember o (.branch .and cs)
  | child {connective : Connective} {cs : List Tree} {t : Tree} (ht : t ∈ cs)
    (h : HasVoidMember o t) : HasVoidMember o (.branch connective cs)

/-- Nothing is without alternatives where conditions have tags, or count as true without one, and
the empty disjunction matches. -/
theorem alternatives_ne_zero {t : Tree} (hvacuous : o.vacuousOr = true)
    (h : ∀ c ∈ t.conditions, o.unknownAs = true ∨ (tag c).isOk = true) : alternatives o t ≠ 0 := by
  induction t using Tree.induction with
  | leaf c =>
    rw [alternatives]
    rcases h c (by simp) with hunknown | htag
    · cases tag c <;> simp [hunknown]
    · cases hc : tag c with
      | ok t => simp
      | error fault =>
        rw [hc] at htag
        cases htag
  | branch connective cs ih =>
    have hchild : ∀ t ∈ cs, alternatives o t ≠ 0 :=
      fun t ht => ih t ht fun c hc => h c (Tree.conditions_subset_branch ht hc)
    -- A disjunction has the alternatives of its first member at least, a conjunction a product of
    -- positive factors.
    match connective, cs, hchild with
    | .and, cs, hchild =>
      rw [alternatives_and, ← Nat.pos_iff_ne_zero, List.prod_pos_iff_forall_pos_nat,
        List.forall_mem_map]
      exact fun t ht => Nat.pos_of_ne_zero (hchild t ht)
    | .or, [], _ => simp [hvacuous]
    | .or, c :: cs, hchild =>
      rw [alternatives_or_cons, List.map_cons, List.sum_cons]
      have hfirst := hchild c List.mem_cons_self
      omega

theorem not_hasVoidMember {t : Tree} (hvacuous : o.vacuousOr = true)
    (h : ∀ c ∈ t.conditions, o.unknownAs = true ∨ (tag c).isOk = true) : ¬ HasVoidMember o t := by
  induction t using Tree.induction with
  | leaf c => exact nofun
  | branch connective cs ih =>
    have hchild : ∀ t ∈ cs, ∀ c ∈ t.conditions, o.unknownAs = true ∨ (tag c).isOk = true :=
      fun t ht c hc => h c (Tree.conditions_subset_branch ht hc)
    intro hvoid
    cases hvoid with
    | here ht hnone => exact alternatives_ne_zero hvacuous (hchild _ ht) hnone
    | child ht hvoid => exact ih _ ht (hchild _ ht) hvoid

/-- Where no factor is zero, a product of the first factors is no more than that of all. -/
theorem prod_take_le {ns : List Nat} (h : ∀ n ∈ ns, n ≠ 0) (k : Nat) :
    (ns.take k).prod ≤ ns.prod := by
  have hrest : 0 < (ns.drop k).prod :=
    List.prod_pos_iff_forall_pos_nat.2 fun n hn =>
      Nat.pos_of_ne_zero (h n (List.mem_of_mem_drop hn))
  calc (ns.take k).prod ≤ (ns.take k).prod * (ns.drop k).prod := Nat.le_mul_of_pos_right _ hrest
    _ = ns.prod := List.prod_take_mul_prod_drop ns k

/-- What is too long on the way is too long at the end, when no member is without alternatives. -/
theorem lt_alternatives_of_oversized {t : Tree} (h : Oversized o t) (hvoid : ¬ HasVoidMember o t) :
    o.maxTerms < alternatives o t := by
  induction h with
  | @or cs hne h =>
    obtain ⟨c, cs, rfl⟩ := List.exists_cons_of_ne_nil hne
    rwa [alternatives_or_cons]
  | @and cs k hk h =>
    rw [alternatives_and]
    refine h.trans_le (prod_take_le ?_ _)
    rw [List.forall_mem_map]
    exact fun t ht hnone => hvoid (.here ht hnone)
  | @child connective cs t ht _ ih =>
    have hmember := ih fun h => hvoid (.child ht h)
    -- The alternatives of the child are a factor or a summand of those of the branch.
    refine hmember.trans_le ?_
    match connective, cs, ht, hvoid with
    | .and, cs, ht, hvoid =>
      rw [alternatives_and]
      refine Nat.le_of_dvd ?_ (List.dvd_prod (List.mem_map_of_mem ht))
      rw [List.prod_pos_iff_forall_pos_nat, List.forall_mem_map]
      exact fun u hu => Nat.pos_of_ne_zero fun hnone => hvoid (.here hu hnone)
    | .or, c :: cs, ht, _ =>
      rw [alternatives_or_cons]
      exact List.le_sum_of_mem (List.mem_map_of_mem ht)

/-- A tree with too many alternatives has a list that is too long, its own. A condition, or a branch
without children, comes without a list on the way. -/
theorem oversized_of_lt_alternatives {t : Tree}
    (hbound : 0 < o.maxTerms ∨ ∃ connective c cs, t = .branch connective (c :: cs))
    (h : o.maxTerms < alternatives o t) : Oversized o t := by
  -- A single alternative is past a bound of zero only.
  have hsingle : alternatives o t ≤ 1 → ∃ connective c cs, t = .branch connective (c :: cs) :=
    fun hle => hbound.resolve_left (by omega)
  match t with
  | .leaf c =>
    have hle : alternatives o (.leaf c) ≤ 1 := by
      rw [alternatives]
      split
      · exact Nat.le_refl 1
      · split <;> omega
    obtain ⟨_, _, _, hbranch⟩ := hsingle hle
    cases hbranch
  | .branch .and [] =>
    obtain ⟨_, _, _, hbranch⟩ := hsingle (by simp)
    cases hbranch
  | .branch .or [] =>
    obtain ⟨_, _, _, hbranch⟩ := hsingle (by rw [alternatives_or_nil]; split <;> omega)
    cases hbranch
  | .branch .and (c :: cs) =>
    rw [alternatives_and] at h
    refine .and (Nat.lt_succ_self cs.length) ?_
    rwa [List.take_of_length_le (by simp)]
  | .branch .or (c :: cs) =>
    rw [alternatives_or_cons] at h
    exact .or (List.cons_ne_nil _ _) h

/-! ### The order of children -/

/-- The branches in which the order of children makes no difference to what is too long: the
disjunctions, and the conjunctions of which every member has an alternative. -/
def MayReorder (o : ExpandOptions) : Connective → List Tree → Prop
  | .or, _ => True
  | .and, cs => ∀ t ∈ cs, alternatives o t ≠ 0

/-- Where no factor is zero, the product of some first factors is past a bound when that of all
is. -/
theorem exists_lt_prod_take_iff {ns : List Nat} (h : ∀ n ∈ ns, n ≠ 0) (m : Nat) :
    (∃ k < ns.length, m < (ns.take (k + 1)).prod) ↔ 0 < ns.length ∧ m < ns.prod := by
  constructor
  · rintro ⟨k, hk, hlong⟩
    exact ⟨by omega, hlong.trans_le (prod_take_le h _)⟩
  · rintro ⟨hpos, hlong⟩
    refine ⟨ns.length - 1, by omega, ?_⟩
    rwa [List.take_of_length_le (by omega)]

section Reordering

variable {connective : Connective} {cs ds : List Tree}
  (hcounts : (cs.map (alternatives o)).Perm (ds.map (alternatives o)))
include hcounts

theorem alternatives_eq_of_perm :
    alternatives o (.branch connective cs) = alternatives o (.branch connective ds) := by
  match connective, cs, ds, hcounts with
  | .and, cs, ds, hcounts => rw [alternatives_and, alternatives_and, hcounts.prod_nat]
  | .or, [], [], _ => rfl
  | .or, [], d :: ds, hcounts => exact absurd hcounts.length_eq (by simp)
  | .or, c :: cs, [], hcounts => exact absurd hcounts.length_eq (by simp)
  | .or, c :: cs, d :: ds, hcounts =>
    rw [alternatives_or_cons, alternatives_or_cons, hcounts.sum_nat]

theorem exists_lt_prod_take_iff_of_perm (h : ∀ t ∈ cs, alternatives o t ≠ 0) (m : Nat) :
    (∃ k < cs.length, m < ((cs.map (alternatives o)).take (k + 1)).prod) ↔
      ∃ k < ds.length, m < ((ds.map (alternatives o)).take (k + 1)).prod := by
  have hcs : ∀ n ∈ cs.map (alternatives o), n ≠ 0 := List.forall_mem_map.2 h
  have hds : ∀ n ∈ ds.map (alternatives o), n ≠ 0 := fun n hn => hcs n (hcounts.mem_iff.2 hn)
  have hleft := exists_lt_prod_take_iff hcs m
  have hright := exists_lt_prod_take_iff hds m
  rw [hcounts.length_eq, hcounts.prod_nat, ← hright, List.length_map] at hleft
  have hlength : cs.length = ds.length := by simpa using hcounts.length_eq
  rwa [hlength]

theorem oversized_iff_of_perm (hchild : (∃ t ∈ cs, Oversized o t) ↔ ∃ t ∈ ds, Oversized o t)
    (horder : cs.map (alternatives o) = ds.map (alternatives o) ∨ MayReorder o connective cs) :
    Oversized o (.branch connective cs) ↔ Oversized o (.branch connective ds) := by
  have hlength : cs.length = ds.length := by simpa using hcounts.length_eq
  cases connective with
  | or =>
    rw [oversized_or_iff, oversized_or_iff, hchild, hcounts.sum_nat, ← List.length_pos_iff,
      ← List.length_pos_iff, hlength]
  | and =>
    rw [oversized_and_iff, oversized_and_iff, hchild]
    rcases horder with hsame | hmay
    · rw [hsame, hlength]
    · rw [exists_lt_prod_take_iff_of_perm hcounts hmay]

end Reordering

/-- **Reordering children** where it may be done changes neither the number of alternatives nor
whether some list is too long. -/
theorem alternatives_and_oversized_of_reordered {s t : Tree}
    (h : Tree.Reordered (MayReorder o) s t) :
    alternatives o s = alternatives o t ∧ (Oversized o s ↔ Oversized o t) := by
  -- The count goes along, since a conjunction is too long by the counts of its members.
  have hsame := Tree.eq_of_reordered (f := fun t => (alternatives o t, Oversized o t)) ?_ h
  · exact ⟨congrArg Prod.fst hsame, Iff.of_eq (congrArg Prod.snd hsame)⟩
  · intro connective cs ds hmap
    have hperm : (cs.map fun t => (alternatives o t, Oversized o t)).Perm
        (ds.map fun t => (alternatives o t, Oversized o t)) :=
      hmap.elim (fun hsame => hsame ▸ .refl _) And.right
    have hcounts : (cs.map (alternatives o)).Perm (ds.map (alternatives o)) := by
      simpa [Function.comp_def] using hperm.map Prod.fst
    have horder : cs.map (alternatives o) = ds.map (alternatives o) ∨
        MayReorder o connective cs := by
      refine hmap.imp (fun hsame => ?_) And.left
      simpa [Function.comp_def] using congrArg (List.map Prod.fst) hsame
    have hchild : (∃ t ∈ cs, Oversized o t) ↔ ∃ t ∈ ds, Oversized o t := by
      simpa using exists_congr fun p => and_congr_left fun (_ : p.2) => hperm.mem_iff (a := p)
    exact Prod.ext (alternatives_eq_of_perm hcounts)
      (propext (oversized_iff_of_perm hcounts hchild horder))

/-! ### The rules of a policy -/

section Policies

variable {resolve : String → Option Application} {o : Options} {p : AccessPolicy}
  {destination : DestinationTag} {value : String}
  (hplace : place resolve p.destination = .known destination value)
include hplace

theorem compilePolicy_of_known :
    compilePolicy resolve o p =
      match expand (expandOptions o p) p.root with
      | some terms => .ok (terms.map fun sources => rule p sources destination value)
      | none => .error (.tooManyRules p.name o.maxTerms) := by
  rewrite [compilePolicy, hplace]
  cases p.effect <;> rfl

theorem compilePolicy_eq_error_iff_oversized :
    compilePolicy resolve o p = .error (.tooManyRules p.name o.maxTerms) ↔
      Oversized (expandOptions o p) p.root := by
  rw [compilePolicy_of_known hplace, ← expand_eq_none_iff]
  cases expand (expandOptions o p) p.root <;> simp

theorem exists_rules_iff_not_oversized :
    (∃ rules, compilePolicy resolve o p = .ok rules) ↔ ¬ Oversized (expandOptions o p) p.root := by
  rw [compilePolicy_of_known hplace, ← expand_eq_none_iff]
  cases expand (expandOptions o p) p.root <;> simp

theorem length_of_compilePolicy {rules : List Rule} (h : compilePolicy resolve o p = .ok rules) :
    rules.length = alternatives (expandOptions o p) p.root := by
  rw [compilePolicy_of_known hplace] at h
  cases hterms : expand (expandOptions o p) p.root with
  | none =>
    rw [hterms] at h
    cases h
  | some terms =>
    rw [hterms] at h
    obtain rfl := Except.ok.inj h
    rw [List.length_map, length_expand p.root terms hterms]

theorem exists_rules_length_of_not_oversized (h : ¬ Oversized (expandOptions o p) p.root) :
    ∃ rules, compilePolicy resolve o p = .ok rules ∧
      rules.length = alternatives (expandOptions o p) p.root := by
  obtain ⟨rules, hrules⟩ := (exists_rules_iff_not_oversized hplace).2 h
  exact ⟨rules, hrules, length_of_compilePolicy hplace hrules⟩

end Policies

/-- **When a policy makes too many rules.** A policy whose place is known has too many exactly when
some list that is built for its tree is too long, and else as many rules as its tree has
alternatives. Where the bound allows a rule, or the tree has children, it has too many whenever
there are more alternatives than the bound allows, and only then if no conjunction has a member
without alternatives. Reordering the children of disjunctions, and of conjunctions of which every
member has an alternative, makes no difference. -/
theorem compilePolicy_eq_error_iff (resolve : String → Option Application) (o : Options)
    (p : AccessPolicy) (destination : DestinationTag) (value : String)
    (hplace : place resolve p.destination = .known destination value) :
    (compilePolicy resolve o p = .error (.tooManyRules p.name o.maxTerms) ↔
        Oversized (expandOptions o p) p.root) ∧
      (¬ Oversized (expandOptions o p) p.root →
        ∃ rules, compilePolicy resolve o p = .ok rules ∧
          rules.length = alternatives (expandOptions o p) p.root) ∧
      ((0 < o.maxTerms ∨ ∃ connective c cs, p.root = .branch connective (c :: cs)) →
        o.maxTerms < alternatives (expandOptions o p) p.root →
        compilePolicy resolve o p = .error (.tooManyRules p.name o.maxTerms)) ∧
      ((0 < o.maxTerms ∨ ∃ connective c cs, p.root = .branch connective (c :: cs)) →
        ¬ HasVoidMember (expandOptions o p) p.root →
        (compilePolicy resolve o p = .error (.tooManyRules p.name o.maxTerms) ↔
          o.maxTerms < alternatives (expandOptions o p) p.root)) ∧
      ∀ t, Tree.Reordered (MayReorder (expandOptions o p)) p.root t →
        ((∃ rules, compilePolicy resolve o { p with root := t } = .ok rules) ↔
          ∃ rules, compilePolicy resolve o p = .ok rules) := by
  have herror := compilePolicy_eq_error_iff_oversized (o := o) hplace
  refine ⟨herror, exists_rules_length_of_not_oversized hplace, fun hbound hmany => ?_,
    fun hbound hvoid => herror.trans ⟨fun h => ?_, fun hmany => ?_⟩, fun t ht => ?_⟩
  · exact herror.2 (oversized_of_lt_alternatives hbound hmany)
  · exact lt_alternatives_of_oversized h hvoid
  · exact oversized_of_lt_alternatives hbound hmany
  · -- The place does not depend on the tree.
    obtain ⟨-, hsame⟩ := alternatives_and_oversized_of_reordered ht
    have hplace' : place resolve { p with root := t }.destination = .known destination value :=
      hplace
    rw [exists_rules_iff_not_oversized hplace, exists_rules_iff_not_oversized hplace', hsame]
    rfl

/-- A condition without a tag, among two disjunctions of nine members. -/
def crowded : List Tree := [
  .branch .or (List.replicate 9 (.leaf (.ofOp .managed ""))),
  .branch .or (List.replicate 9 (.leaf (.ofOp .isPrivate ""))),
  .leaf (.ofOp .os "plan9")]

/-- A policy that asks for all of some trees, for any destination. -/
def askingAll (effect : Effect) (members : List Tree) : AccessPolicy :=
  { AccessPolicy.new "crowd" 10 with
    effect := effect
    root := .branch .and members }

/-- A policy that denies takes the condition for true and has eighty-one alternatives, in either
order of its members. -/
theorem compilePolicy_eq_error_iff_crowded :
    place (fun _ => none) (askingAll .deny crowded).destination = .known .cidr anyDestination ∧
      compilePolicy (fun _ => none) .default (askingAll .deny crowded) =
        .error (.tooManyRules "crowd" 64) ∧
      ¬ (∃ rules, compilePolicy (fun _ => none) .default (askingAll .deny crowded.reverse) =
        .ok rules) := by
  have hplace : place (fun _ => none) (askingAll .deny crowded).destination =
      .known .cidr anyDestination := rfl
  obtain ⟨-, -, -, hvoid, horder⟩ := compilePolicy_eq_error_iff (fun _ => none) .default
    (askingAll .deny crowded) _ _ hplace
  have hnone : ¬ HasVoidMember (expandOptions .default (askingAll .deny crowded))
      (askingAll .deny crowded).root := not_hasVoidMember rfl fun _ _ => .inl rfl
  have hmany : compilePolicy (fun _ => none) .default (askingAll .deny crowded) =
      .error (.tooManyRules "crowd" 64) := (hvoid (.inl (by decide)) hnone).2 (by decide +kernel)
  refine ⟨hplace, hmany, fun hrules => ?_⟩
  have hreordered : Tree.Reordered (MayReorder (expandOptions .default (askingAll .deny crowded)))
      (askingAll .deny crowded).root (.branch .and crowded.reverse) := by
    refine .branch (List.forall₂_same.2 fun t _ => Tree.reordered_refl t) (.inr ⟨?_, ?_⟩)
    · exact fun t ht => alternatives_ne_zero rfl fun _ _ => .inl rfl
    · exact (List.reverse_perm _).symm
  obtain ⟨rules, hrules⟩ := (horder _ hreordered).1 hrules
  rw [hmany] at hrules
  cases hrules

/-- **A member without alternatives does not prevent too many terms before it**: a policy that
allows takes the condition for false and has no alternatives, but only where the condition comes
first it is compiled, to no rules. -/
theorem compilePolicy_of_void_member :
    place (fun _ => none) (askingAll .allow crowded).destination = .known .cidr anyDestination ∧
      alternatives (expandOptions .default (askingAll .allow crowded))
        (askingAll .allow crowded).root = 0 ∧
      compilePolicy (fun _ => none) .default (askingAll .allow crowded) =
        .error (.tooManyRules "crowd" 64) ∧
      compilePolicy (fun _ => none) .default (askingAll .allow crowded.reverse) = .ok [] := by
  decide +kernel

/-- **Where a tree has no children, no list is held against the bound**: the policy is compiled
under any bound, also under one that is less than its alternatives. -/
theorem exists_rules_of_childless {resolve : String → Option Application} {o : Options}
    {p : AccessPolicy} {destination : DestinationTag} {value : String}
    (hplace : place resolve p.destination = .known destination value)
    (hroot : ∀ connective c cs, p.root ≠ .branch connective (c :: cs)) :
    ∃ rules, compilePolicy resolve o p = .ok rules ∧
      rules.length = alternatives (expandOptions o p) p.root :=
  exists_rules_length_of_not_oversized hplace (not_oversized_of_childless hroot)

/-- A bound of zero, and a rule. -/
example :
    let p := { AccessPolicy.new "laptops" 10 with root := .leaf (.ofOp .managed "") }
    ∃ rules, compilePolicy (fun _ => none) { Options.default with maxTerms := 0 } p = .ok rules ∧
      rules.length = 1 :=
  exists_rules_of_childless rfl nofun

end ZeroTrust.Gateway
