/-
  `Proofs.Editor.Vocabulary` — editing stays in the vocabulary and in the stage.

  A condition of an edited tree was there before, or is the one that the editor
  inserts, or is a patched one (`Editor.Origin`). That holds of every edit at every
  path, whether it fits the tree or not (`Editor.origin_of_mem_applyAt`). So what the
  inserted condition has and every patch keeps (`Editor.Keeps`), all conditions keep
  through any run of edits (`Editor.Keeps.run`).

  A patch starts a condition afresh, exchanges its operator within the kind, or
  exchanges its value (`Patch.apply_cases`). None of the three leaves the vocabulary,
  and only the first changes the kind, to one that the patch names. Validation
  therefore finds nothing wrong with the shape of an edited tree, and a stage that
  allowed its conditions still does (`Editor.inVocabulary_run`).
-/
import ZeroTrust.Engine.Basic
import ZeroTrust.Proofs.Validation.Paths

namespace ZeroTrust

/-! ### Conditions of the vocabulary -/

namespace Condition

/-- Whether operator and field of a condition are those of its kind and operator. -/
structure InVocabulary (c : Condition) : Prop where
  allowed : c.kind.allows c.op = true
  field_eq : c.field = c.op.field

instance (c : Condition) : Decidable c.InVocabulary :=
  decidable_of_iff (c.kind.allows c.op = true ∧ c.field = c.op.field)
    ⟨fun h => ⟨h.1, h.2⟩, fun h => ⟨h.allowed, h.field_eq⟩⟩

theorem inVocabulary_ofOp (op : Op) (value : String) : (ofOp op value).InVocabulary where
  allowed := Kind.allows_kind op
  field_eq := rfl

theorem inVocabulary_default (kind : Kind) : (default kind).InVocabulary :=
  inVocabulary_ofOp kind.defaultOp ""

@[simp] theorem kind_default (kind : Kind) : (default kind).kind = kind := by
  cases kind <;> rfl

theorem kind_ofOp {kind : Kind} {op : Op} (h : kind.allows op = true) (value : String) :
    (ofOp op value).kind = kind :=
  beq_iff_eq.1 h

end Condition

/-! ### Patches -/

namespace Patch

/-- **All that a patch makes of a condition**: a new one of a kind that it names, one with another
operator of the same kind, or one with another value. -/
theorem apply_cases (patch : Patch) (c : Condition) :
    (∃ kind ∈ patch.kind, patch.apply c = .default kind) ∨
      (∃ op, c.kind.allows op = true ∧ patch.apply c = .ofOp op "") ∨
      ∃ value, patch.apply c = { c with value := value } := by
  rw [apply, step]
  cases hkind : patch.kind.filter (· != c.kind) with
  -- Another kind resets the condition, whatever else the patch names.
  | some kind => exact .inl ⟨kind, (Option.mem_filter_iff.1 hkind).1, rfl⟩
  | none =>
    refine .inr ?_
    simp only [stepWithinKind]
    cases patch.op.filter (· != c.op) with
    | some op =>
      by_cases hallowed : c.kind.allows op = true
      · exact .inl ⟨op, hallowed, by simp [hallowed]⟩
      · -- An operator of another kind changes nothing, not even the value.
        exact .inr ⟨c.value, by simp [hallowed]⟩
    | none =>
      cases patch.value with
      | some value => exact .inr ⟨value, rfl⟩
      | none => exact .inr ⟨c.value, rfl⟩

theorem inVocabulary_apply (patch : Patch) {c : Condition} (h : c.InVocabulary) :
    (patch.apply c).InVocabulary := by
  rcases patch.apply_cases c with ⟨kind, -, heq⟩ | ⟨op, -, heq⟩ | ⟨value, heq⟩
  · rw [heq]
    exact Condition.inVocabulary_default kind
  · rw [heq]
    exact Condition.inVocabulary_ofOp op ""
  · rw [heq]
    exact ⟨h.allowed, h.field_eq⟩

theorem kind_apply (patch : Patch) (c : Condition) :
    (patch.apply c).kind ∈ patch.kind ∨ (patch.apply c).kind = c.kind := by
  rcases patch.apply_cases c with ⟨kind, hkind, heq⟩ | ⟨op, hallowed, heq⟩ | ⟨value, heq⟩
  · rw [heq, Condition.kind_default]
    exact .inl hkind
  · rw [heq, Condition.kind_ofOp hallowed]
    exact .inr rfl
  · rw [heq]
    exact .inr rfl

end Patch

/-! ### One edit -/

/-- A member of a list of which one member was changed is an old one or the changed one. -/
theorem mem_modify {α : Type} {f : α → α} {a : α} {i : Nat} {xs : List α} (h : a ∈ xs.modify i f) :
    a ∈ xs ∨ ∃ b ∈ xs, a = f b := by
  obtain ⟨j, hj⟩ := List.getElem?_of_mem h
  rw [List.getElem?_modify] at hj
  obtain ⟨b, hb, rfl⟩ := Option.map_eq_some_iff.1 hj
  have hmem := List.mem_of_getElem? hb
  split
  case isTrue => exact .inr ⟨b, hmem, rfl⟩
  case isFalse => exact .inl hmem

namespace Editor

/-- Where a condition of an edited tree comes from, given those of the tree before. -/
inductive Origin (e : Editor) (edit : Edit) (old : List Condition) : Condition → Prop where
  | kept {c : Condition} (h : c ∈ old) : Origin e edit old c
  | inserted {c : Condition} (h : c ∈ e.defaultLeaf.conditions) : Origin e edit old c
  | patched {c : Condition} {patch : Patch} (hedit : edit = .setCondition patch) (h : c ∈ old) :
    Origin e edit old (patch.apply c)

variable {e : Editor} {edit : Edit} {t : Tree} {c : Condition}

theorem Origin.mono {old old' : List Condition} (hsub : old ⊆ old') (h : Origin e edit old c) :
    Origin e edit old' c := by
  cases h with
  | kept h => exact .kept (hsub h)
  | inserted h => exact .inserted h
  | patched hedit h => exact .patched hedit (hsub h)

theorem mem_conditions_append {child : Tree} (h : c ∈ (e.append child t).conditions) :
    c ∈ t.conditions ∨ c ∈ child.conditions := by
  cases t with
  | branch o cs => simpa [append, or_and_right, exists_or] using h
  | leaf d =>
    rw [append] at h
    cases hconversion : e.conversion with
    | wrap => simpa [hconversion] using h
    | replace => exact .inr (by simpa [hconversion] using h)

theorem origin_of_mem_apply (h : c ∈ (e.apply edit t).conditions) :
    Origin e edit t.conditions c := by
  cases edit with
  | addCondition => exact (mem_conditions_append h).elim .kept .inserted
  | addSubGroup =>
    -- The group that is added has no conditions.
    exact (mem_conditions_append h).elim .kept fun hgroup => by simp [defaultGroup] at hgroup
  | removeChild index =>
    cases t with
    | leaf d => exact .kept h
    | branch o cs =>
      -- The children that are left are among those that there were.
      rw [apply, removeChild, Tree.conditions_branch, List.mem_flatMap] at h
      obtain ⟨u, hu, hc⟩ := h
      exact .kept (Tree.conditions_subset_branch (List.mem_of_mem_eraseIdx hu) hc)
  | setConnective connective =>
    cases t with
    | leaf d => exact .kept h
    | branch o cs =>
      rw [apply, setConnective, Tree.conditions_branch] at h
      exact .kept (by rwa [Tree.conditions_branch])
  | setCondition patch =>
    cases t with
    | branch o cs => exact .kept h
    | leaf d =>
      rw [apply, setCondition, Tree.conditions_leaf, List.mem_singleton] at h
      rw [h]
      exact .patched rfl (by simp)

/-- **Where the conditions of an edited tree come from**, wherever the edit is aimed. -/
theorem origin_of_mem_applyAt {path : List Nat} (h : c ∈ (e.applyAt edit path t).conditions) :
    Origin e edit t.conditions c := by
  induction path generalizing t with
  | nil => exact origin_of_mem_apply h
  | cons i path ih =>
    cases t with
    | leaf d => exact .kept h
    | branch o cs =>
      rw [applyAt, Tree.conditions_branch, List.mem_flatMap] at h
      obtain ⟨u, hu, hc⟩ := h
      -- The edit goes into one child, and the others are as they were.
      rcases mem_modify hu with hu | ⟨v, hv, rfl⟩
      · exact .kept (Tree.conditions_subset_branch hu hc)
      · exact (ih hc).mono (Tree.conditions_subset_branch hv)

/-! ### Runs of edits -/

/-- Whether a property of conditions is kept by an edit: the condition that the editor inserts has
it, and a patch leaves it to those that have it. -/
structure Keeps (e : Editor) (good : Condition → Prop) (edit : Edit) : Prop where
  inserted : ∀ c ∈ e.defaultLeaf.conditions, good c
  patched : ∀ patch, edit = .setCondition patch → ∀ c, good c → good (patch.apply c)

/-- The tree after some edits, each at a path of its own. -/
def run (e : Editor) (edits : List (List Nat × Edit)) (t : Tree) : Tree :=
  edits.foldl (fun t step => e.applyAt step.2 step.1 t) t

variable {good : Condition → Prop} {edits : List (List Nat × Edit)}

theorem Keeps.applyAt (hkeeps : e.Keeps good edit) {path : List Nat}
    (h : ∀ c ∈ t.conditions, good c) : ∀ c ∈ (e.applyAt edit path t).conditions, good c := by
  intro c hc
  cases origin_of_mem_applyAt hc with
  | kept hold => exact h c hold
  | inserted hnew => exact hkeeps.inserted c hnew
  | patched hedit hold => exact hkeeps.patched _ hedit _ (h _ hold)

/-- **What every edit keeps, a run of edits keeps.** -/
theorem Keeps.run (hkeeps : ∀ step ∈ edits, e.Keeps good step.2) (h : ∀ c ∈ t.conditions, good c) :
    ∀ c ∈ (e.run edits t).conditions, good c := by
  induction edits generalizing t with
  | nil => exact h
  | cons step edits ih =>
    have hstep := hkeeps step List.mem_cons_self
    exact ih (fun other hother => hkeeps other (List.mem_cons_of_mem _ hother)) (hstep.applyAt h)

theorem keeps_inVocabulary (e : Editor) (edit : Edit) : e.Keeps Condition.InVocabulary edit where
  inserted c hc := by
    rw [defaultLeaf, Tree.conditions_leaf, List.mem_singleton] at hc
    rw [hc]
    exact Condition.inVocabulary_default _
  patched patch _ _ h := patch.inVocabulary_apply h

end Editor

/-- Whether an edit names no kind of condition but those that a stage allows. -/
def Edit.NamesWithin (stage : Stage) : Edit → Prop
  | .setCondition patch => ∀ kind ∈ patch.kind, stage.allows kind = true
  | _ => True

instance (stage : Stage) (edit : Edit) : Decidable (edit.NamesWithin stage) :=
  match edit with
  | .setCondition patch =>
    inferInstanceAs (Decidable (∀ kind ∈ patch.kind, stage.allows kind = true))
  | .addCondition | .addSubGroup | .removeChild _ | .setConnective _ => .isTrue trivial

theorem Editor.keeps_stage {e : Editor} {stage : Stage} {edit : Edit} (he : e.stage = some stage)
    (hedit : edit.NamesWithin stage) : e.Keeps (fun c => stage.allows c.kind = true) edit where
  inserted c hc := by
    rw [defaultLeaf, Tree.conditions_leaf, List.mem_singleton] at hc
    rw [hc, Condition.kind_default, he]
    exact stage.allows_defaultKind
  patched := by
    rintro patch rfl c h
    rcases patch.kind_apply c with hkind | hkind
    · exact hedit _ hkind
    · rwa [hkind]

/-! ### Failures by their kinds -/

namespace Tree

variable {t : Tree}

/-- A tree of conditions of the vocabulary has nothing wrong with its shape. -/
theorem hasKind_structural (h : ∀ c ∈ t.conditions, c.InVocabulary) (stage : Option Stage)
    (base : String) : (Report.mk (t.failures stage base)).hasKind .structural = false := by
  rw [Report.hasKind, List.any_eq_false]
  intro f hf
  obtain ⟨way, c, hc, hleaf⟩ := exists_leaf_of_mem_failures hf
  have hvocabulary := h c (mem_conditions_of_at? hc)
  rcases List.mem_append.1 hleaf with hleaf | hleaf
  · rw [(stageFailures_cases hleaf).1]
    decide
  · -- The vocabulary leaves one way to fail, that of the value, which is not about the shape.
    rcases Condition.failures_cases hleaf with ⟨-, -, hforeign⟩ | ⟨-, -, hfield⟩ | ⟨hkind, -⟩
    · exact absurd hvocabulary.allowed (by simp [hforeign])
    · exact absurd hvocabulary.field_eq hfield
    · rw [hkind]
      decide

/-- A tree of conditions that a stage allows has no failure of targeting in that stage. -/
theorem hasKind_targeting {stage : Stage} (h : ∀ c ∈ t.conditions, stage.allows c.kind = true)
    (base : String) : (Report.mk (t.failures (some stage) base)).hasKind .targeting = false := by
  rw [Report.hasKind, List.any_eq_false]
  intro f hf
  obtain ⟨way, c, hc, hleaf⟩ := exists_leaf_of_mem_failures hf
  rcases List.mem_append.1 hleaf with hleaf | hleaf
  · obtain ⟨-, -, s, hs, hforeign⟩ := stageFailures_cases hleaf
    obtain rfl := Option.some.inj hs
    rw [h c (mem_conditions_of_at? hc)] at hforeign
    cases hforeign
  · -- No failure of the condition by itself is about the stage.
    rcases Condition.failures_cases hleaf with ⟨hkind, -⟩ | ⟨hkind, -⟩ | ⟨hkind, -⟩ <;>
      (rw [hkind]; decide)

end Tree

/-- A sign-in policy is rejected only for a condition that its stage does not allow. -/
theorem Engine.signInOutcome_ne_rejected {p : SignInPolicy}
    (h : ∀ c ∈ p.root.conditions, p.stage.allows c.kind = true) (facts : Facts) (reason : String) :
    signInOutcome facts p ≠ .rejected reason := by
  have hnone : (p.root.conditions.find? fun c => !p.stage.allows c.kind) = none := by
    simpa [List.find?_eq_none] using h
  rw [signInOutcome, hnone]
  cases p.root.evaluate facts <;> simp [Truth.outcome]

namespace Editor

/-- **Editing never leaves the vocabulary or the stage**, whatever edits are aimed wherever. The
conditions stay in the vocabulary, so that validation finds nothing wrong with the shape of the
tree. With an editor for a stage, a tree that the stage allows, and patches that name no kind
foreign to it, validation finds no condition foreign to the stage either, and no sign-in policy of
the stage with the edited tree is rejected. -/
theorem inVocabulary_run (e : Editor) (edits : List (List Nat × Edit)) (t : Tree)
    (h : ∀ c ∈ t.conditions, c.InVocabulary) :
    (∀ c ∈ (e.run edits t).conditions, c.InVocabulary) ∧
    (∀ stage base,
      (Report.mk ((e.run edits t).failures stage base)).hasKind .structural = false) ∧
    ∀ stage, e.stage = some stage → (∀ c ∈ t.conditions, stage.allows c.kind = true) →
      (∀ step ∈ edits, step.2.NamesWithin stage) →
      (∀ base,
        (Report.mk ((e.run edits t).failures (some stage) base)).hasKind .targeting = false) ∧
      ∀ (p : SignInPolicy) (facts : Facts) (reason : String),
        Engine.signInOutcome facts { p with stage := stage, root := e.run edits t } ≠
          .rejected reason := by
  have hvocabulary : ∀ c ∈ (e.run edits t).conditions, c.InVocabulary :=
    Keeps.run (fun step _ => e.keeps_inVocabulary step.2) h
  refine ⟨hvocabulary, Tree.hasKind_structural hvocabulary, fun stage he hstage hnames => ?_⟩
  have hallowed := Keeps.run (fun step hstep => keeps_stage he (hnames step hstep)) hstage
  exact ⟨Tree.hasKind_targeting hallowed,
    fun p facts reason => Engine.signInOutcome_ne_rejected hallowed facts reason⟩

/-! ### A tree for the time before authentication -/

def networkTree : Tree :=
  .branch .and [.leaf (.ofOp .cidr "10.0.0.0/8")]

/-- Edits of all five sorts. The fourth names an operator of another kind, and the fifth is aimed at
no node. -/
def networkEdits : List (List Nat × Edit) := [
  ([0], .addCondition),
  ([0, 1], .setCondition ⟨some .device, none, some "linux"⟩),
  ([0, 1], .setCondition ⟨none, some .managed, none⟩),
  ([0, 0], .setCondition ⟨none, some .is, some "ann@example.com"⟩),
  ([7], .removeChild 2),
  ([], .addSubGroup),
  ([1], .addCondition),
  ([], .setConnective .or)]

theorem inVocabulary_run_networkEdits :
    ((∀ c ∈ networkTree.conditions, c.InVocabulary) ∧
      (∀ c ∈ networkTree.conditions, Stage.preAuth.allows c.kind = true) ∧
      ∀ step ∈ networkEdits, step.2.NamesWithin .preAuth) ∧
    (Editor.mk (some .preAuth) .wrap).run networkEdits networkTree =
      .branch .or [
        .branch .and [.leaf (.ofOp .cidr "10.0.0.0/8"), .leaf (.ofOp .managed "")],
        .branch .or [.leaf (.ofOp .cidr "")]] ∧
    (∀ c ∈ ((Editor.mk (some .preAuth) .wrap).run networkEdits networkTree).conditions,
      c.InVocabulary) ∧
    ∀ (p : SignInPolicy) (facts : Facts) (reason : String),
      Engine.signInOutcome facts
          { p with
            stage := .preAuth
            root := (Editor.mk (some .preAuth) .wrap).run networkEdits networkTree } ≠
        .rejected reason := by
  have hvocabulary : ∀ c ∈ networkTree.conditions, c.InVocabulary := by decide +kernel
  have hstage : ∀ c ∈ networkTree.conditions, Stage.preAuth.allows c.kind = true := by
    decide +kernel
  have hnames : ∀ step ∈ networkEdits, step.2.NamesWithin .preAuth := by decide +kernel
  obtain ⟨hkept, -, hforStage⟩ :=
    inVocabulary_run ⟨some .preAuth, .wrap⟩ networkEdits networkTree hvocabulary
  exact ⟨⟨hvocabulary, hstage, hnames⟩, by decide +kernel, hkept,
    (hforStage .preAuth rfl hstage hnames).2⟩

end Editor

end ZeroTrust
