/-
  `Proofs.Gateway.Choices` — the terms of a tree, one by one and in order.

  Without any bound the terms of a tree can be written down at once (`normalForm`).
  Those of a disjunction are the terms of its children, one list after another.
  Those of a conjunction come from all ways to choose one term of each child
  (`choices`), in lexicographic order; the chosen terms are put one after another
  and of each tag the first occurrence is kept.

  Expansion goes a child at a time. What it has after some children of a
  conjunction are the merged choices among these children: one more child makes each
  choice longer at its end (`choices_concat`), and joining its term to what is
  merged already comes to merging all at once (`merged_concat`). So whatever
  expansion gives is the normal form, whose terms repeat no tag
  (`nodup_of_mem_normalForm`) and are no more than the bound, or one
  (`length_expand_le`). All of it stands together in `eq_normalForm_of_expand`.
-/
import ZeroTrust.Proofs.Gateway.Size

namespace ZeroTrust.Gateway

/-! ### Choices -/

/-- The ways to choose one element of each list, in lexicographic order: the choice from the first
list varies slowest. -/
def choices {α : Type} : List (List α) → List (List α)
  | [] => [[]]
  | xs :: rest => xs.flatMap fun x => (choices rest).map (x :: ·)

/-- One more list makes each choice longer at its end, and its element varies fastest. -/
theorem choices_concat {α : Type} (lists : List (List α)) (ys : List α) :
    choices (lists ++ [ys]) = (choices lists).flatMap fun choice => ys.map (choice ++ [·]) := by
  induction lists with
  | nil =>
    show ys.flatMap (fun y => [[y]]) = ys.map (fun y => [y]) ++ []
    rw [List.append_nil, List.map_eq_flatMap]
  | cons xs lists ih =>
    rw [List.cons_append, choices, choices, ih, List.flatMap_assoc]
    refine List.flatMap_congr fun x _ => ?_
    rw [List.map_flatMap, List.flatMap_map]
    exact List.flatMap_congr fun choice _ => by rw [List.map_map]; rfl

example : choices [[1, 2], [3, 4]] = [[1, 3], [1, 4], [2, 3], [2, 4]] := by decide

/-! ### Merging -/

/-- The tags of some terms, those of the first term first, each at its first occurrence only. -/
def merged (terms : List Term) : Term :=
  terms.flatten.eraseDups

/-- Joining to a list that was freed of repetitions frees the whole of them. -/
theorem conjoin_eraseDups (tags others : List Tag) :
    conjoin tags.eraseDups others = (tags ++ others).eraseDups := by
  induction others generalizing tags with
  | nil => rw [conjoin, List.append_nil]
  | cons t others ih =>
    have hone : (if tags.eraseDups.contains t then tags.eraseDups else tags.eraseDups ++ [t]) =
        (tags ++ [t]).eraseDups := by
      rw [List.eraseDups_append, List.removeAll]
      by_cases ht : t ∈ tags
      · simp [ht]
      · simp [ht, List.eraseDups_cons]
    rw [conjoin, hone, ih, List.append_assoc, List.singleton_append]

theorem merged_concat (terms : List Term) (other : Term) :
    merged (terms ++ [other]) = conjoin (merged terms) other := by
  rw [merged, merged, conjoin_eraseDups, List.flatten_append, List.flatten_singleton]

theorem nodup_conjoin {term : Term} (hterm : term.Nodup) (other : Term) :
    (conjoin term other).Nodup := by
  induction other generalizing term with
  | nil => exact hterm
  | cons t other ih =>
    rw [conjoin]
    apply ih
    split
    case isTrue => exact hterm
    case isFalse ht =>
      have hnew : t ∉ term := by simpa using ht
      rw [List.nodup_append]
      refine ⟨hterm, List.nodup_singleton t, ?_⟩
      rintro u hu v hv rfl
      exact hnew (List.mem_singleton.1 hv ▸ hu)

theorem nodup_merged (terms : List Term) : (merged terms).Nodup := by
  have hmerged : merged terms = conjoin [] terms.flatten :=
    (conjoin_eraseDups [] terms.flatten).symm
  rw [hmerged]
  exact nodup_conjoin List.nodup_nil _

/-- The merged choices, with the terms of one more child to choose from. -/
theorem product_map_merged (lists : List (List Term)) (others : List Term) :
    product ((choices lists).map merged) others = (choices (lists ++ [others])).map merged := by
  rw [choices_concat, product, List.flatMap_map, List.map_flatMap]
  refine List.flatMap_congr fun choice _ => ?_
  rw [List.map_map]
  exact List.map_congr_left fun other _ => (merged_concat choice other).symm

/-! ### The normal form -/

section NormalForm

variable (unknownAs vacuousOr : Bool)

mutual

/-- The terms of a tree, however many they are. -/
def normalForm : Tree → List Term
  | .leaf c =>
    match tag c with
    | .ok t => [[t]]
    | .error _ => if unknownAs then [[]] else []
  | .branch .and cs => (choices (normalForms cs)).map merged
  | .branch .or [] => if vacuousOr then [[]] else []
  | .branch .or (c :: cs) => (normalForms (c :: cs)).flatten

/-- The terms of some trees, those of each tree in a list of their own. -/
def normalForms : List Tree → List (List Term)
  | [] => []
  | t :: ts => normalForm t :: normalForms ts

end

theorem normalForms_eq_map (ts : List Tree) :
    normalForms unknownAs vacuousOr ts = ts.map (normalForm unknownAs vacuousOr) := by
  induction ts with
  | nil => rw [normalForms, List.map_nil]
  | cons t ts ih => rw [normalForms, ih, List.map_cons]

@[simp] theorem normalForm_and (cs : List Tree) :
    normalForm unknownAs vacuousOr (.branch .and cs) =
      (choices (cs.map (normalForm unknownAs vacuousOr))).map merged := by
  rw [normalForm, normalForms_eq_map]

@[simp] theorem normalForm_or_cons (c : Tree) (cs : List Tree) :
    normalForm unknownAs vacuousOr (.branch .or (c :: cs)) =
      ((c :: cs).map (normalForm unknownAs vacuousOr)).flatten := by
  rw [normalForm, normalForms_eq_map]

theorem nodup_of_mem_normalForm (t : Tree) (term : Term)
    (hterm : term ∈ normalForm unknownAs vacuousOr t) : term.Nodup := by
  induction t using Tree.induction generalizing term with
  | leaf c =>
    rw [normalForm] at hterm
    cases htag : tag c with
    | ok t => simp_all
    | error fault => cases unknownAs <;> simp_all
  | branch connective cs ih =>
    cases connective with
    | and =>
      rw [normalForm_and] at hterm
      obtain ⟨choice, -, rfl⟩ := List.mem_map.1 hterm
      exact nodup_merged choice
    | or =>
      cases cs with
      | nil =>
        rw [normalForm] at hterm
        cases vacuousOr <;> simp_all
      | cons c cs =>
        rw [normalForm_or_cons] at hterm
        obtain ⟨terms, hterms, hterm⟩ := List.mem_flatten.1 hterm
        obtain ⟨u, hu, rfl⟩ := List.mem_map.1 hterms
        exact ih u hu term hterm

end NormalForm

/-! ### Expansion, a child at a time -/

section Expansion

variable {o : ExpandOptions}

theorem conditionTerms_eq_normalForm (c : Condition) :
    conditionTerms o.unknownAs c = normalForm o.unknownAs o.vacuousOr (.leaf c) := by
  rw [conditionTerms, normalForm]
  cases tag c <;> rfl

theorem expandAll_eq_choices {ts : List Tree}
    (h : ∀ t ∈ ts, ∀ terms, expand o t = some terms →
      terms = normalForm o.unknownAs o.vacuousOr t)
    (lists : List (List Term)) {terms : List Term}
    (hterms : expandAll o ((choices lists).map merged) ts = some terms) :
    terms = (choices (lists ++ ts.map (normalForm o.unknownAs o.vacuousOr))).map merged := by
  induction ts generalizing lists with
  | nil =>
    rw [expandAll] at hterms
    rw [← Option.some.inj hterms, List.map_nil, List.append_nil]
  | cons t ts ih =>
    obtain ⟨others, ht, -, hterms⟩ := expandAll_cons_eq_some_iff.1 hterms
    -- The children so far, and this one, are what there is to choose from.
    rw [product_map_merged, h t List.mem_cons_self others ht] at hterms
    rw [ih (fun u hu => h u (List.mem_cons_of_mem _ hu)) _ hterms, List.map_cons,
      List.append_assoc, List.singleton_append]

theorem expandAny_eq_flatten {ts : List Tree}
    (h : ∀ t ∈ ts, ∀ terms, expand o t = some terms →
      terms = normalForm o.unknownAs o.vacuousOr t)
    (sofar : List Term) {terms : List Term} (hterms : expandAny o sofar ts = some terms) :
    terms = sofar ++ (ts.map (normalForm o.unknownAs o.vacuousOr)).flatten := by
  induction ts generalizing sofar with
  | nil =>
    rw [expandAny] at hterms
    rw [← Option.some.inj hterms, List.map_nil, List.flatten_nil, List.append_nil]
  | cons t ts ih =>
    obtain ⟨others, ht, -, hterms⟩ := expandAny_cons_eq_some_iff.1 hterms
    rw [ih (fun u hu => h u (List.mem_cons_of_mem _ hu)) _ hterms,
      h t List.mem_cons_self others ht, List.map_cons, List.flatten_cons, List.append_assoc]

theorem expand_eq_normalForm (t : Tree) (terms : List Term) (hterms : expand o t = some terms) :
    terms = normalForm o.unknownAs o.vacuousOr t := by
  induction t using Tree.induction generalizing terms with
  | leaf c =>
    rw [expand] at hterms
    rw [← Option.some.inj hterms, conditionTerms_eq_normalForm]
  | branch connective cs ih =>
    cases connective with
    | and =>
      -- From no lists there is one choice, which is empty.
      rw [expand] at hterms
      rw [expandAll_eq_choices ih [] hterms, List.nil_append, normalForm_and]
    | or =>
      cases cs with
      | nil =>
        rw [expand] at hterms
        rw [← Option.some.inj hterms, normalForm]
        rfl
      | cons c cs =>
        rw [expand] at hterms
        rw [expandAny_eq_flatten ih [] hterms, List.nil_append, normalForm_or_cons]

/-! ### The bound -/

theorem length_expandAll_le (ts : List Tree) (sofar : List Term) {terms : List Term}
    (hterms : expandAll o sofar ts = some terms) :
    terms.length ≤ max sofar.length o.maxTerms := by
  induction ts generalizing sofar with
  | nil =>
    rw [expandAll] at hterms
    rw [← Option.some.inj hterms]
    exact Nat.le_max_left _ _
  | cons t ts ih =>
    obtain ⟨others, -, hshort, hterms⟩ := expandAll_cons_eq_some_iff.1 hterms
    have hlength := ih _ hterms
    rw [length_product] at hlength
    omega

theorem length_expandAny_le (ts : List Tree) (sofar : List Term) {terms : List Term}
    (hterms : expandAny o sofar ts = some terms) :
    terms.length ≤ max sofar.length o.maxTerms := by
  induction ts generalizing sofar with
  | nil =>
    rw [expandAny] at hterms
    rw [← Option.some.inj hterms]
    exact Nat.le_max_left _ _
  | cons t ts ih =>
    obtain ⟨others, -, hshort, hterms⟩ := expandAny_cons_eq_some_iff.1 hterms
    have hlength := ih _ hterms
    omega

/-- No more terms than the bound, but for the one term of a condition or of an empty branch, which
is not measured. -/
theorem length_expand_le (t : Tree) (terms : List Term) (hterms : expand o t = some terms) :
    terms.length ≤ max 1 o.maxTerms := by
  have hconstant : ∀ b, (constant b).length ≤ 1 := by decide
  cases t with
  | leaf c =>
    rw [expand] at hterms
    rw [← Option.some.inj hterms, conditionTerms]
    cases tag c with
    | ok t => exact Nat.le_max_left _ _
    | error fault => exact (hconstant o.unknownAs).trans (Nat.le_max_left _ _)
  | branch connective cs =>
    cases connective with
    | and =>
      rw [expand] at hterms
      -- A conjunction begins with one term, which nothing measures where it has no members.
      exact length_expandAll_le cs [[]] hterms
    | or =>
      cases cs with
      | nil =>
        rw [expand] at hterms
        rw [← Option.some.inj hterms]
        exact (hconstant o.vacuousOr).trans (Nat.le_max_left _ _)
      | cons c cs =>
        rw [expand] at hterms
        have hlength := length_expandAny_le (c :: cs) [] hterms
        rw [List.length_nil] at hlength
        omega

end Expansion

/-- **Expansion gives the normal form**, term by term and tag by tag, wherever it gives anything. No
term repeats a tag, and there are no more terms than the bound, or one. -/
theorem eq_normalForm_of_expand (o : ExpandOptions) (t : Tree) (terms : List Term)
    (hterms : expand o t = some terms) :
    terms = normalForm o.unknownAs o.vacuousOr t ∧ (∀ term ∈ terms, term.Nodup) ∧
      terms.length ≤ max 1 o.maxTerms := by
  have hform := expand_eq_normalForm t terms hterms
  refine ⟨hform, fun term hterm => ?_, length_expand_le t terms hterms⟩
  rw [hform] at hterm
  exact nodup_of_mem_normalForm _ _ t term hterm

/-- Two disjunctions that have a member in common, and a condition that no tag expresses. -/
def overlapping : Tree :=
  .branch .and [
    .branch .or [.leaf (.ofOp .os "linux"), .leaf (.ofOp .managed "")],
    .leaf (.ofOp .os "plan9"),
    .branch .or [.leaf (.ofOp .country "DE"), .leaf (.ofOp .os "linux")]]

/-- The four alternatives fit a bound of four. The tag in common stands once where it is chosen
twice, at its first place. -/
theorem eq_normalForm_of_expand_overlapping :
    expand ⟨true, true, 4⟩ overlapping = some [
        [⟨.deviceOs, "linux"⟩, ⟨.country, "DE"⟩],
        [⟨.deviceOs, "linux"⟩],
        [⟨.deviceManaged, "true"⟩, ⟨.country, "DE"⟩],
        [⟨.deviceManaged, "true"⟩, ⟨.deviceOs, "linux"⟩]] ∧
      normalForm true true overlapping = [
        [⟨.deviceOs, "linux"⟩, ⟨.country, "DE"⟩],
        [⟨.deviceOs, "linux"⟩],
        [⟨.deviceManaged, "true"⟩, ⟨.country, "DE"⟩],
        [⟨.deviceManaged, "true"⟩, ⟨.deviceOs, "linux"⟩]] := by
  have hterms : expand ⟨true, true, 4⟩ overlapping = some [
      [⟨.deviceOs, "linux"⟩, ⟨.country, "DE"⟩],
      [⟨.deviceOs, "linux"⟩],
      [⟨.deviceManaged, "true"⟩, ⟨.country, "DE"⟩],
      [⟨.deviceManaged, "true"⟩, ⟨.deviceOs, "linux"⟩]] := by decide +kernel
  exact ⟨hterms, (eq_normalForm_of_expand _ _ _ hterms).1.symm⟩

end ZeroTrust.Gateway
