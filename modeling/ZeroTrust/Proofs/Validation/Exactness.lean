/-
  `Proofs.Validation.Exactness` — a report tells every broken rule, and tells it once.

  The condition of a leaf is checked for four things (`LeafRule`). What a report should
  hold can be said without walking the tree: for each leaf, at the end of its way, the
  rules that its condition breaks. A report holds what is wrong with the leaves, one
  after another (`Tree.failures_eq_flatMap`), and what it says of one leaf are its broken
  rules (`Tree.map_place_leafFailures`).

  The leaves are in the order of their ways, so that no way comes twice. No two ways and
  no two rules have one text, and so no two failures of a report do
  (`Tree.failures_exact`).
-/
import ZeroTrust.Proofs.Validation.Paths

namespace ZeroTrust

/-! ### The rules for a leaf -/

/-- What the condition of a leaf is checked for, by the part of the condition that is at fault when
the rule is broken. -/
inductive LeafRule where
  /-- The stage allows the kind. -/
  | kind
  /-- The operator belongs to the kind. -/
  | op
  /-- The field is the one that the operator reads. -/
  | field
  /-- The value is in the grammar of the operator. -/
  | value
  deriving DecidableEq, Repr

namespace LeafRule

/-- Every rule, in the order in which a leaf is checked. -/
def all : List LeafRule := [kind, op, field, value]

/-- The kind of failure that a broken rule is. -/
def failureKind : LeafRule → FailureKind
  | kind => .targeting
  | op | field => .structural
  | value => .valueGrammar

/-- The field of a document that a rule is about. -/
def fieldName : LeafRule → String
  | kind => "type"
  | op => "op"
  | field => "field"
  | value => "value"

/-- Whether a condition breaks a rule, in a policy with a stage or without one. Field and value are
judged only where the operator belongs to the kind. -/
def isBrokenBy (stage : Option Stage) (c : Condition) : LeafRule → Bool
  | kind => stage.any fun s => !s.allows c.kind
  | op => !c.kind.allows c.op
  | field => c.kind.allows c.op && c.field != c.op.field
  | value => c.kind.allows c.op && (c.op.faultOf? c.value).isSome

/-- The rules that a condition breaks. -/
def broken (stage : Option Stage) (c : Condition) : List LeafRule :=
  all.filter (isBrokenBy stage c)

/-- How a report shows that a rule is broken at the end of a way. -/
def place (base : String) (way : List Nat) (rule : LeafRule) : FailureKind × String :=
  (rule.failureKind, Tree.leafPath base way rule.fieldName)

theorem mem_all (rule : LeafRule) : rule ∈ all := by
  cases rule <;> decide

theorem mem_broken_iff {stage : Option Stage} {c : Condition} {rule : LeafRule} :
    rule ∈ broken stage c ↔ rule.isBrokenBy stage c = true := by
  simp [broken, mem_all]

theorem nodup_broken (stage : Option Stage) (c : Condition) : (broken stage c).Nodup :=
  List.Nodup.sublist List.filter_sublist (by decide)

theorem fieldName_injective {rule other : LeafRule} (h : rule.fieldName = other.fieldName) :
    rule = other := by
  cases rule <;> cases other <;> simp_all [fieldName]

theorem place_injective {base : String} {way other : List Nat} {rule rule' : LeafRule}
    (h : rule.place base way = rule'.place base other) : way = other ∧ rule = rule' := by
  obtain ⟨hway, hfield⟩ := Tree.leafPath_inj (congrArg Prod.snd h)
  exact ⟨hway, fieldName_injective hfield⟩

end LeafRule

/-- What a failure says, but for its words. -/
def Failure.place (f : Failure) : FailureKind × String :=
  (f.kind, f.path)

namespace Tree

/-! ### What a report says of a leaf -/

section Leaf

variable {base : String} {way : List Nat} {c : Condition}

theorem place_mk (rule : LeafRule) (message : String) :
    (⟨rule.failureKind, nodePath base way ++ ".condition" ++ ("." ++ rule.fieldName), message⟩ :
      Failure).place = rule.place base way := by
  rw [Failure.place, LeafRule.place, leafPath_eq_append]

theorem map_place_stageFailures (stage : Option Stage) :
    (stageFailures stage c (nodePath base way ++ ".condition")).map Failure.place =
      ([LeafRule.kind].filter (LeafRule.isBrokenBy stage c)).map (LeafRule.place base way) := by
  cases stage with
  | none => rfl
  | some s =>
    rw [stageFailures]
    cases hallowed : s.allows c.kind with
    | true => simp [LeafRule.isBrokenBy, hallowed]
    | false =>
      have hbroken : [LeafRule.kind].filter (LeafRule.isBrokenBy (some s) c) = [.kind] := by
        simp [LeafRule.isBrokenBy, hallowed]
      rw [hbroken]
      exact congrArg (· :: []) (place_mk .kind _)

theorem map_place_conditionFailures (stage : Option Stage) :
    (c.failures (nodePath base way ++ ".condition")).map Failure.place =
      ([LeafRule.op, .field, .value].filter (LeafRule.isBrokenBy stage c)).map
        (LeafRule.place base way) := by
  rw [Condition.failures]
  cases hallowed : c.kind.allows c.op with
  | false =>
    -- This failure stands alone.
    have hbroken : [LeafRule.op, .field, .value].filter (LeafRule.isBrokenBy stage c) = [.op] := by
      simp [LeafRule.isBrokenBy, hallowed]
    rw [hbroken]
    exact congrArg (· :: []) (place_mk .op _)
  | true =>
    have hbroken : [LeafRule.op, .field, .value].filter (LeafRule.isBrokenBy stage c) =
        (if c.field = c.op.field then [] else [.field]) ++
          (c.op.faultOf? c.value).toList.map fun _ => .value := by
      by_cases hfield : c.field = c.op.field <;> cases hfault : c.op.faultOf? c.value <;>
        simp [LeafRule.isBrokenBy, hallowed, hfield, hfault]
    -- Field and value are judged one beside the other, so the two parts of the report are compared
    -- one by one.
    rw [hbroken, Bool.not_true, if_neg Bool.false_ne_true, List.map_append, List.map_append,
      List.map_map, List.map_map]
    congr 1
    · split
      case isTrue => rfl
      case isFalse => exact congrArg (· :: []) (place_mk .field _)
    · exact List.map_congr_left fun fault _ => place_mk .value fault.message

/-- What a report says of a leaf are the rules that its condition breaks. -/
theorem map_place_leafFailures (stage : Option Stage) :
    (leafFailures stage c (nodePath base way)).map Failure.place =
      (LeafRule.broken stage c).map (LeafRule.place base way) := by
  have hrules : LeafRule.all = [LeafRule.kind] ++ [LeafRule.op, .field, .value] := rfl
  rw [LeafRule.broken, hrules, List.filter_append, List.map_append, ← map_place_stageFailures,
    ← map_place_conditionFailures, ← List.map_append]
  rfl

end Leaf

/-! ### Whole reports -/

section Report

variable (t : Tree) (stage : Option Stage) (base : String)

theorem map_place_failures :
    (t.failures stage base).map Failure.place =
      t.leaves.flatMap fun l => (LeafRule.broken stage l.2).map (LeafRule.place base l.1) := by
  rw [failures_eq_flatMap, List.map_flatMap]
  exact List.flatMap_congr fun l _ => map_place_leafFailures stage

theorem mem_map_place_failures_iff (way : List Nat) (rule : LeafRule) :
    rule.place base way ∈ (t.failures stage base).map Failure.place ↔
      ∃ c, t.at? way = some (leaf c) ∧ rule.isBrokenBy stage c = true := by
  rw [map_place_failures, List.mem_flatMap]
  constructor
  · rintro ⟨⟨way', c⟩, hleaf, hplace⟩
    obtain ⟨rule', hbroken, heq⟩ := List.mem_map.1 hplace
    obtain ⟨rfl, rfl⟩ := LeafRule.place_injective heq
    exact ⟨c, mem_leaves_iff.1 hleaf, LeafRule.mem_broken_iff.1 hbroken⟩
  · rintro ⟨c, hleaf, hbroken⟩
    exact ⟨(way, c), mem_leaves_iff.2 hleaf,
      List.mem_map_of_mem (LeafRule.mem_broken_iff.2 hbroken)⟩

theorem exists_place_of_mem_failures {f : Failure} (h : f ∈ t.failures stage base) :
    ∃ way rule, f.place = LeafRule.place base way rule := by
  have hplace := List.mem_map_of_mem (f := Failure.place) h
  rw [map_place_failures, List.mem_flatMap] at hplace
  obtain ⟨l, -, hl⟩ := hplace
  obtain ⟨rule, -, heq⟩ := List.mem_map.1 hl
  exact ⟨l.1, rule, heq.symm⟩

/-- Paths differ within a leaf by the field, and from leaf to leaf by the way. -/
theorem nodup_map_path_failures : ((t.failures stage base).map Failure.path).Nodup := by
  have hpath : (t.failures stage base).map Failure.path =
      ((t.failures stage base).map Failure.place).map Prod.snd := by
    rw [List.map_map]
    rfl
  rw [hpath, map_place_failures, List.map_flatMap, List.nodup_iff_pairwise_ne,
    List.pairwise_flatMap]
  -- Two paths come from one leaf, or from two of which one stands before the other.
  refine ⟨fun l _ => ?_, (pairwise_leaves t).imp fun hlt x hx y hy heq => ?_⟩
  · rw [List.map_map, List.pairwise_map]
    refine (LeafRule.nodup_broken stage l.2).imp fun hne heq => hne ?_
    exact LeafRule.fieldName_injective (leafPath_inj heq).2
  · simp only [List.map_map, List.mem_map, Function.comp_apply] at hx hy
    obtain ⟨rule, -, rfl⟩ := hx
    obtain ⟨rule', -, rfl⟩ := hy
    obtain ⟨hway, -⟩ := leafPath_inj heq
    rw [hway] at hlt
    exact List.lt_irrefl _ hlt

end Report

/-- **A report is exact.** It shows, leaf by leaf and depth first, the rules that the condition of
the leaf breaks, and no two failures have one path. Each path shows one way and one part of a
condition only; a failure stands at the place of a rule exactly when a leaf lies at the end of the
way whose condition breaks that rule. -/
theorem failures_exact (t : Tree) (stage : Option Stage) (base : String) :
    ((t.failures stage base).map Failure.place =
        t.leaves.flatMap fun l => (LeafRule.broken stage l.2).map (LeafRule.place base l.1)) ∧
      ((t.failures stage base).map Failure.path).Nodup ∧
      (∀ f ∈ t.failures stage base, ∃ way rule, f.place = LeafRule.place base way rule ∧
        ∀ other field, f.path = leafPath base other field →
          other = way ∧ field = rule.fieldName) ∧
      ∀ way rule, (∃ f ∈ t.failures stage base, f.place = LeafRule.place base way rule) ↔
        ∃ c, t.at? way = some (leaf c) ∧ rule.isBrokenBy stage c = true := by
  refine ⟨map_place_failures t stage base, nodup_map_path_failures t stage base, ?_, ?_⟩
  · intro f hf
    obtain ⟨way, rule, hplace⟩ := exists_place_of_mem_failures t stage base hf
    refine ⟨way, rule, hplace, fun other field hpath => ?_⟩
    exact leafPath_inj (hpath.symm.trans (congrArg Prod.snd hplace))
  · intro way rule
    rw [← mem_map_place_failures_iff t stage base, List.mem_map]

/-- A tree for users who are known, with a leaf whose field and value are wrong and one whose
operator is. -/
def strayTree : Tree :=
  .branch .or [
    .leaf ⟨.user, .email, .inGroup, " "⟩,
    .branch .and [.leaf (.ofOp .managed ""), .leaf ⟨.device, .ip, .cidr, "10.0.0.0"⟩]]

/-- What is wrong with the operator. -/
def strayOpFailure : Failure :=
  ⟨.structural, "root_node.children[1].children[1].condition.op",
    "operator 'cidr' is not allowed for condition type 'Device'"⟩

/-- Before the user is known, the first leaf breaks three rules; of the last, whose operator is
wrong, the value is not judged. -/
theorem failures_exact_strayTree :
    (strayTree.failures (some .preAuth) "root_node").map Failure.place =
        [(.targeting, "root_node.children[0].condition.type"),
          (.structural, "root_node.children[0].condition.field"),
          (.valueGrammar, "root_node.children[0].condition.value"),
          (.structural, "root_node.children[1].children[1].condition.op")] ∧
      strayOpFailure ∈ strayTree.failures (some .preAuth) "root_node" ∧
      ∃ way rule, strayOpFailure.place = LeafRule.place "root_node" way rule ∧
        ∀ other field, strayOpFailure.path = leafPath "root_node" other field →
          other = way ∧ field = rule.fieldName := by
  obtain ⟨hreport, -, hplaces, -⟩ := failures_exact strayTree (some .preAuth) "root_node"
  have hmem : strayOpFailure ∈ strayTree.failures (some .preAuth) "root_node" := by decide +kernel
  exact ⟨hreport.trans (by decide +kernel), hmem, hplaces strayOpFailure hmem⟩

end Tree

end ZeroTrust
