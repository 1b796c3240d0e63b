/-
  `Proofs.Validation.Soundness` — what a report without failures says.

  A condition has no failures when its operator belongs to its kind, its field to
  its operator, and its value is in the grammar of the operator (`Condition.Sound`).
  The paths of failures do not matter to this. A tree has none when each of its
  conditions has none and is of a kind that the stage allows
  (`Tree.failures_eq_nil_iff`), and a policy when its parts have none. An application
  has none when it has an id and a name and all its networks can be read
  (`Application.Sound`).
-/
import ZeroTrust.Policy.Family
import ZeroTrust.Proofs.Validation.Leaves

namespace ZeroTrust

/-! ### Conditions -/

/-- Whether nothing is wrong with a condition. -/
structure Condition.Sound (c : Condition) : Prop where
  allowed : c.kind.allows c.op = true
  field_eq : c.field = c.op.field
  faultless : c.op.faultOf? c.value = none

theorem Condition.failures_eq_nil_iff (c : Condition) (path : String) :
    c.failures path = [] ↔ c.Sound := by
  rw [failures]
  cases hallowed : c.kind.allows c.op with
  | false =>
    -- This failure stands alone, and a sound condition does not have it.
    simp only [Bool.not_false, if_true, List.cons_ne_nil, false_iff]
    intro h
    rw [h.allowed] at hallowed
    cases hallowed
  | true =>
    simp only [Bool.not_true, Bool.false_eq_true, if_false, List.append_eq_nil_iff,
      List.map_eq_nil_iff, Option.toList_eq_nil_iff, ite_eq_left_iff, List.cons_ne_nil,
      imp_false, Decidable.not_not]
    exact ⟨fun ⟨hfield, hvalue⟩ => ⟨hallowed, hfield, hvalue⟩, fun h => ⟨h.field_eq, h.faultless⟩⟩

/-! ### Trees -/

namespace Tree

theorem leafFailures_eq_nil_iff (stage : Option Stage) (c : Condition) (path : String) :
    leafFailures stage c path = [] ↔ (∀ s ∈ stage, s.allows c.kind = true) ∧ c.Sound := by
  rw [leafFailures, List.append_eq_nil_iff, Condition.failures_eq_nil_iff]
  refine and_congr_left fun _ => ?_
  cases stage with
  | none => simp [stageFailures]
  | some s => cases h : s.allows c.kind <;> simp [stageFailures, h]

/-- **A tree without failures** has no condition that is unsound or foreign to the stage. -/
theorem failures_eq_nil_iff (stage : Option Stage) (t : Tree) (path : String) :
    t.failures stage path = [] ↔
      ∀ c ∈ t.conditions, (∀ s ∈ stage, s.allows c.kind = true) ∧ c.Sound := by
  rw [failures_eq_flatMap, List.flatMap_eq_nil_iff, ← map_snd_leaves, List.forall_mem_map]
  simp only [leafFailures_eq_nil_iff]

end Tree

/-! ### Policies -/

theorem AccessPolicy.validate_passed_iff (p : AccessPolicy) :
    p.validate.passed = true ↔
      nameFailures p.name = [] ∧ p.destination.failures = [] ∧ gatewayFailures p.gateways = [] ∧
        ∀ c ∈ p.root.conditions, c.Sound := by
  rw [Report.passed_iff, validate]
  simp only [List.append_eq_nil_iff, Tree.failures_eq_nil_iff, Option.not_mem_none, false_imp_iff,
    implies_true, true_and, and_assoc]

theorem SignInPolicy.validate_passed_iff (p : SignInPolicy) :
    p.validate.passed = true ↔
      nameFailures p.name = [] ∧
        ∀ c ∈ p.root.conditions, p.stage.allows c.kind = true ∧ c.Sound := by
  rw [Report.passed_iff, validate]
  simp only [List.append_eq_nil_iff, Tree.failures_eq_nil_iff, Option.mem_some_iff, forall_eq']

/-! ### Applications -/

theorem cidrFailures_eq_nil_iff (path literal : String) :
    cidrFailures path literal = [] ↔ (Net.Cidr.parse? literal).isSome = true := by
  rw [cidrFailures]
  split
  case isTrue h => exact ⟨fun _ => h, fun _ => rfl⟩
  case isFalse h =>
    exact ⟨fun hnil => absurd hnil (List.cons_ne_nil _ _), fun hsome => absurd hsome h⟩

theorem cidrsFailuresFrom_eq_nil_iff (index : Nat) (cidrs : List String) :
    cidrsFailuresFrom index cidrs = [] ↔
      ∀ cidr ∈ cidrs, (Net.Cidr.parse? cidr).isSome = true := by
  induction cidrs generalizing index with
  | nil => simp [cidrsFailuresFrom]
  | cons cidr cidrs ih =>
    rw [cidrsFailuresFrom, List.append_eq_nil_iff, cidrFailures_eq_nil_iff, ih,
      List.forall_mem_cons]

/-- Whether nothing is wrong with an application. -/
structure Application.Sound (a : Application) : Prop where
  id_notBlank : Text.isBlankText a.id = false
  name_notBlank : Text.isBlankText a.name = false
  cidrs_readable : ∀ cidr ∈ a.cidrs, (Net.Cidr.parse? cidr).isSome = true

theorem Application.validate_passed_iff (a : Application) :
    a.validate.passed = true ↔ a.Sound := by
  rw [Report.passed_iff, validate]
  simp only [List.append_eq_nil_iff, ite_eq_right_iff, List.cons_ne_nil, imp_false,
    Bool.not_eq_true, cidrsFailuresFrom_eq_nil_iff, and_assoc]
  exact ⟨fun ⟨hid, hname, hcidrs⟩ => ⟨hid, hname, hcidrs⟩,
    fun h => ⟨h.id_notBlank, h.name_notBlank, h.cidrs_readable⟩⟩

end ZeroTrust
