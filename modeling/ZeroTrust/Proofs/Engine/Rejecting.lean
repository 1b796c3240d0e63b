/-
  `Proofs.Engine.Rejecting` — a sign-in policy is rejected for what a report shows first.

  The check of a save walks a tree and puts the texts of ways together. The engine lists
  the conditions of the tree and looks for one that the stage does not allow. Both come to
  the leaves in one order, and so both come down to the first leaf that is foreign to the
  stage: it is what the engine rejects the policy for
  (`Engine.signInOutcome_eq_elim`), and what the first failure of targeting in the report
  points to (`SignInPolicy.map_place_first?`), whatever other failures stand around it.
-/
import ZeroTrust.Engine.Basic
import ZeroTrust.Proofs.Validation.Exactness

namespace ZeroTrust

/-! ### First failures -/

/-- The first failure of a kind. -/
def Report.first? (r : Report) (kind : FailureKind) : Option Failure :=
  r.failures.find? fun f => f.kind == kind

theorem Report.isSome_first? (r : Report) (kind : FailureKind) :
    (r.first? kind).isSome = r.hasKind kind := by
  rw [first?, hasKind, List.isSome_find?]

/-- Of the rules that a condition breaks, only that of its kind is one of targeting. -/
theorem LeafRule.find?_broken (stage : Option Stage) (c : Condition) :
    (broken stage c).find? (fun rule => rule.failureKind == .targeting) =
      Option.guard (fun _ => isBrokenBy stage c kind) kind := by
  rw [broken, List.find?_filter]
  cases hkind : isBrokenBy stage c kind <;> simp [all, failureKind, hkind]

namespace Tree

/-- The first leaf with a condition that a stage does not allow. -/
def firstForeign? (stage : Stage) (t : Tree) : Option (List Nat × Condition) :=
  t.leaves.find? fun l => !stage.allows l.2.kind

theorem firstForeign?_eq_some {stage : Stage} {t : Tree} {l : List Nat × Condition}
    (h : t.firstForeign? stage = some l) : t.at? l.1 = some (leaf l.2) :=
  mem_leaves_iff.1 (List.mem_of_find?_eq_some h)

/-- The first failure of targeting stands at the first leaf that is foreign to the stage. -/
theorem map_place_find?_failures (t : Tree) (stage : Stage) (base : String) :
    ((t.failures (some stage) base).find? fun f => f.kind == .targeting).map Failure.place =
      (t.firstForeign? stage).map fun l => LeafRule.kind.place base l.1 := by
  -- Which failure comes first can be read off the places alone, and these are known leaf by leaf.
  have hplaces : ((t.failures (some stage) base).find? fun f => f.kind == .targeting).map
      Failure.place =
        ((t.failures (some stage) base).map Failure.place).find? fun p => p.1 == .targeting := by
    rw [List.find?_map]
    rfl
  rw [hplaces, map_place_failures, List.find?_flatMap, firstForeign?, List.find?_eq_findSome?_guard,
    List.map_findSome?]
  -- What is left is one leaf: of its failures, only that of its kind is one of targeting.
  congr 1
  funext l
  have hrules : (fun p : FailureKind × String => p.1 == .targeting) ∘ LeafRule.place base l.1 =
      fun rule => rule.failureKind == .targeting := rfl
  rw [List.find?_map, hrules, LeafRule.find?_broken]
  cases hallowed : stage.allows l.2.kind <;>
    simp [Option.guard, LeafRule.isBrokenBy, hallowed]

/-- The first condition that the stage does not allow is that of the first foreign leaf. -/
theorem find?_conditions (t : Tree) (stage : Stage) :
    (t.conditions.find? fun c => !stage.allows c.kind) = (t.firstForeign? stage).map Prod.snd := by
  rw [← map_snd_leaves, List.find?_map]
  rfl

end Tree

namespace SignInPolicy

/-- What is wrong with the name of a policy does not come in between. -/
theorem map_place_first? (p : SignInPolicy) :
    (p.validate.first? .targeting).map Failure.place =
      (p.root.firstForeign? p.stage).map fun l => LeafRule.kind.place "root_node" l.1 := by
  have hname : ((nameFailures p.name).find? fun f => f.kind == .targeting) = none := by
    rw [nameFailures]
    split <;> rfl
  rw [Report.first?, validate, List.find?_append, hname, Option.none_or,
    Tree.map_place_find?_failures]

end SignInPolicy

/-! ### Rejections -/

/-- What is evaluated is not rejected. -/
theorem Truth.outcome_ne_rejected (v : Truth) (reason : String) : v.outcome ≠ .rejected reason := by
  cases v <;> simp [outcome]

namespace Engine

theorem signInOutcome_eq_elim (facts : Facts) (p : SignInPolicy) :
    signInOutcome facts p =
      (p.root.firstForeign? p.stage).elim (p.root.evaluate facts).outcome fun l =>
        .rejected (rejection l.2.kind p.stage) := by
  rw [signInOutcome, Tree.find?_conditions]
  cases p.root.firstForeign? p.stage <;> rfl

/-- A rejection names one kind only. -/
theorem rejection_injective {kind other : Kind} {stage : Stage}
    (h : rejection kind stage = rejection other stage) : kind = other := by
  have hparts : "condition type '" ++ kind.name ++ "' is not allowed in a " ++ stage.name ++
      " policy" =
        "condition type '" ++ other.name ++ "' is not allowed in a " ++ stage.name ++
          " policy" := h
  simp only [String.append_left_inj, String.append_right_inj] at hparts
  exact Kind.name_injective hparts

/-- **The check of a save and that of the engine agree on stages.** A sign-in policy is rejected
exactly when its report has a failure of targeting, whatever else is wrong with it. The first of
these failures shows one way, at its end lies a leaf, and the rejection names the kind of the
condition there and no other. -/
theorem rejected_iff_targeting (p : SignInPolicy) (facts : Facts) :
    ((∃ reason, signInOutcome facts p = .rejected reason) ↔
        p.validate.hasKind .targeting = true) ∧
      ∀ f, p.validate.first? .targeting = some f →
        ∃ way c, f.path = Tree.leafPath "root_node" way "type" ∧
          (∀ other field, f.path = Tree.leafPath "root_node" other field → other = way) ∧
          p.root.at? way = some (.leaf c) ∧
          ∀ kind, signInOutcome facts p = .rejected (rejection kind p.stage) ↔ kind = c.kind := by
  have hfirst := p.map_place_first?
  rw [signInOutcome_eq_elim, ← Report.isSome_first?]
  -- Both sides go by the first foreign leaf, if there is one.
  cases hforeign : p.root.firstForeign? p.stage with
  | none =>
    rw [hforeign, Option.map_none, Option.map_eq_none_iff] at hfirst
    rw [hfirst]
    refine ⟨⟨fun ⟨reason, h⟩ => ?_, fun h => ?_⟩, fun f hf => ?_⟩
    · exact absurd h (Truth.outcome_ne_rejected _ reason)
    · cases h
    · cases hf
  | some l =>
    rw [hforeign] at hfirst
    obtain ⟨f, hf, hplace⟩ := Option.map_eq_some_iff.1 hfirst
    have hpath : f.path = Tree.leafPath "root_node" l.1 "type" := congrArg Prod.snd hplace
    rw [hf]
    refine ⟨⟨fun _ => rfl, fun _ => ⟨_, rfl⟩⟩, fun g hg => ?_⟩
    obtain rfl := Option.some.inj hg
    refine ⟨l.1, l.2, hpath, fun other field hother => ?_, Tree.firstForeign?_eq_some hforeign,
      fun kind => ⟨fun h => ?_, fun h => ?_⟩⟩
    · exact (Tree.leafPath_inj (hother.symm.trans hpath)).1
    · exact (rejection_injective (Outcome.rejected.inj h)).symm
    · rw [h]
      rfl

/-- A policy for the time before the user is known, without a name, that asks for a user behind a
leaf with an unknown system. -/
def straySignIn : SignInPolicy :=
  { SignInPolicy.new "" 10 .preAuth with
    root := .branch .and [.leaf (.ofOp .os "ios"), .leaf (.ofOp .inGroup " "),
      .leaf (.ofOp .managed "")] }

/-- What is wrong with the kind of the second leaf. -/
def strayKindFailure : Failure :=
  ⟨.targeting, "root_node.children[1].condition.type",
    "User conditions are not available in pre_auth policies"⟩

/-- The failures of the name and of the first leaf come before, that of the value comes after. -/
theorem rejected_iff_targeting_straySignIn :
    straySignIn.validate.first? .targeting = some strayKindFailure ∧
      (∃ reason, signInOutcome ⟨.empty, none, true⟩ straySignIn = .rejected reason) ∧
      ∃ way c, strayKindFailure.path = Tree.leafPath "root_node" way "type" ∧
        (∀ other field, strayKindFailure.path = Tree.leafPath "root_node" other field →
          other = way) ∧
        straySignIn.root.at? way = some (.leaf c) ∧
        ∀ kind, signInOutcome ⟨.empty, none, true⟩ straySignIn =
          .rejected (rejection kind straySignIn.stage) ↔ kind = c.kind := by
  obtain ⟨hrejected, hpoints⟩ := rejected_iff_targeting straySignIn ⟨.empty, none, true⟩
  have hfirst : straySignIn.validate.first? .targeting = some strayKindFailure := by
    decide +kernel
  exact ⟨hfirst, hrejected.2 (by decide +kernel), hpoints strayKindFailure hfirst⟩

end Engine

end ZeroTrust
