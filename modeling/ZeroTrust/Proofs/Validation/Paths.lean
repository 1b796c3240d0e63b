/-
  `Proofs.Validation.Paths` — where in a tree a failure lies.

  A report tells the place of a failure by a text, and an editor takes the indices on
  the way from the root. Every failure of a tree is one of some leaf and shows the
  text of the way there (`Tree.exists_leaf_of_mem_failures`,
  `Tree.exists_field_of_mem_leafFailures`). Indices stand between brackets, so that no
  two ways have one text (`Tree.leafPath_inj`), and the text leads an editor back to
  the leaf.

  An edit inside a tree shows at one place of the report: there the failures of the
  node change, and what stands before and after them stays and belongs to other ways
  (`Tree.failures_applyAt`). From both follows what patching a leaf that is at fault
  does to a report (`Tree.failures_of_patched`).
-/
import ZeroTrust.Proofs.Validation.Leaves
import ZeroTrust.Text.Decimal

namespace ZeroTrust

/-- Where a separator is met first, a text is cut in one way only. -/
theorem append_cons_inj_of_notMem {α : Type} {a : α} {xs xs' ys ys' : List α}
    (hxs : a ∉ xs) (hxs' : a ∉ xs') (h : xs ++ a :: ys = xs' ++ a :: ys') :
    xs = xs' ∧ ys = ys' := by
  induction xs generalizing xs' with
  | nil =>
    cases xs' with
    | nil => exact ⟨rfl, (List.cons.inj h).2⟩
    | cons b xs' => exact absurd (List.cons.inj h).1 (List.ne_of_not_mem_cons hxs')
  | cons b xs ih =>
    cases xs' with
    | nil => exact absurd (List.cons.inj h).1.symm (List.ne_of_not_mem_cons hxs)
    | cons c xs' =>
      obtain ⟨rfl, hrest⟩ := List.cons.inj h
      obtain ⟨rfl, hys⟩ := ih (List.not_mem_of_not_mem_cons hxs)
        (List.not_mem_of_not_mem_cons hxs') hrest
      exact ⟨rfl, hys⟩

/-- **All that can be wrong with a condition**: its operator, its field, or its value. -/
theorem Condition.failures_cases {c : Condition} {path : String} {f : Failure}
    (h : f ∈ c.failures path) :
    (f.kind = .structural ∧ f.path = path ++ ("." ++ "op") ∧ c.kind.allows c.op = false) ∨
      (f.kind = .structural ∧ f.path = path ++ ("." ++ "field") ∧ c.field ≠ c.op.field) ∨
      (f.kind = .valueGrammar ∧ f.path = path ++ ("." ++ "value")) := by
  rw [failures] at h
  split at h
  case isTrue hforeign =>
    obtain rfl := List.mem_singleton.1 h
    exact .inl ⟨rfl, rfl, by simpa using hforeign⟩
  case isFalse =>
    rcases List.mem_append.1 h with h | h
    · split at h
      case isTrue => exact absurd h List.not_mem_nil
      case isFalse hfield =>
        obtain rfl := List.mem_singleton.1 h
        exact .inr (.inl ⟨rfl, rfl, hfield⟩)
    · obtain ⟨fault, -, rfl⟩ := List.mem_map.1 h
      exact .inr (.inr ⟨rfl, rfl⟩)

namespace Tree

/-! ### The text of a way -/

/-- The path of a field of the condition at the end of a way. -/
def leafPath (base : String) (way : List Nat) (field : String) : String :=
  s!"{nodePath base way}.condition.{field}"

/-- The path of a field is that of the condition, and the field. -/
theorem leafPath_eq_append (base : String) (way : List Nat) (field : String) :
    leafPath base way field = nodePath base way ++ ".condition" ++ ("." ++ field) := by
  have hleaf : leafPath base way field =
      nodePath base way ++ (".condition" ++ ".") ++ field := rfl
  rw [hleaf, String.append_assoc, String.append_assoc, String.append_assoc]

/-- What stands before each index of a way. -/
def childMark : List Char :=
  ['.', 'c', 'h', 'i', 'l', 'd', 'r', 'e', 'n', '[']

/-- What stands before the field of a condition. -/
def conditionMark : List Char :=
  ['.', 'c', 'o', 'n', 'd', 'i', 't', 'i', 'o', 'n', '.']

/-- What a way adds to the path of the root. -/
def wayText : List Nat → List Char
  | [] => []
  | i :: way => childMark ++ (Nat.toDigits 10 i ++ ']' :: wayText way)

theorem toList_nodePath (base : String) (way : List Nat) :
    (nodePath base way).toList = base.toList ++ wayText way := by
  induction way generalizing base with
  | nil => simp [nodePath, wayText]
  | cons i way ih =>
    have hchild : childPath base i = base ++ ".children[" ++ toString i ++ "]" := rfl
    rw [nodePath, ih, hchild, wayText]
    simp [childMark]

theorem toList_leafPath (base : String) (way : List Nat) (field : String) :
    (leafPath base way field).toList =
      base.toList ++ (wayText way ++ (conditionMark ++ field.toList)) := by
  have hpath : leafPath base way field = nodePath base way ++ ".condition." ++ field := rfl
  rw [hpath]
  simp [toList_nodePath, conditionMark]

theorem bracket_notMem_toDigits (n : Nat) : ']' ∉ Nat.toDigits 10 n := by
  intro h
  exact absurd (Text.isDigit_of_mem_toDigits h) (by decide)

theorem wayText_append_inj {way way' : List Nat} {field field' : List Char}
    (h : wayText way ++ (conditionMark ++ field) = wayText way' ++ (conditionMark ++ field')) :
    way = way' ∧ field = field' := by
  induction way generalizing way' with
  | nil =>
    cases way' with
    | nil => exact ⟨rfl, List.append_cancel_left h⟩
    -- A way that ends goes on with the mark of the condition, which no index starts with.
    | cons j way' => simp [wayText, childMark, conditionMark] at h
  | cons i way ih =>
    cases way' with
    | nil => simp [wayText, childMark, conditionMark] at h
    | cons j way' =>
      simp only [wayText, List.append_assoc, List.cons_append] at h
      -- The index ends at the bracket, because digits are no brackets.
      obtain ⟨hindex, hrest⟩ := append_cons_inj_of_notMem (bracket_notMem_toDigits i)
        (bracket_notMem_toDigits j) (List.append_cancel_left h)
      obtain ⟨rfl, rfl⟩ := ih hrest
      have hij : i = j := by simpa using congrArg Text.digits? hindex
      exact ⟨by rw [hij], rfl⟩

/-- **The path of a field tells the way to it.** -/
theorem leafPath_inj {base : String} {way way' : List Nat} {field field' : String}
    (h : leafPath base way field = leafPath base way' field') : way = way' ∧ field = field' := by
  have hchars := congrArg String.toList h
  rw [toList_leafPath, toList_leafPath] at hchars
  obtain ⟨hway, hfield⟩ := wayText_append_inj (List.append_cancel_left hchars)
  exact ⟨hway, String.toList_inj.1 hfield⟩

/-! ### The failures of a leaf -/

/-- The fields of a condition that a failure can be about. -/
def checkedFields : List String :=
  ["type", "op", "field", "value"]

/-- A stage finds nothing wrong with a condition but its kind. -/
theorem stageFailures_cases {stage : Option Stage} {c : Condition} {path : String} {f : Failure}
    (h : f ∈ stageFailures stage c path) :
    f.kind = .targeting ∧ f.path = path ++ ("." ++ "type") ∧
      ∃ s ∈ stage, s.allows c.kind = false := by
  cases stage with
  | none => exact absurd h List.not_mem_nil
  | some s =>
    rw [stageFailures] at h
    split at h
    case isTrue => exact absurd h List.not_mem_nil
    case isFalse hforeign =>
      obtain rfl := List.mem_singleton.1 h
      exact ⟨rfl, rfl, s, rfl, Bool.eq_false_iff.2 hforeign⟩

theorem exists_field_of_mem_leafFailures {stage : Option Stage} {c : Condition} {base : String}
    {way : List Nat} {f : Failure} (h : f ∈ leafFailures stage c (nodePath base way)) :
    ∃ field ∈ checkedFields, f.path = leafPath base way field := by
  simp only [leafPath_eq_append]
  rcases List.mem_append.1 h with h | h
  · exact ⟨"type", by decide, (stageFailures_cases h).2.1⟩
  · rcases Condition.failures_cases h with ⟨-, hop, -⟩ | ⟨-, hfield, -⟩ | ⟨-, hvalue⟩
    · exact ⟨"op", by decide, hop⟩
    · exact ⟨"field", by decide, hfield⟩
    · exact ⟨"value", by decide, hvalue⟩

/-! ### The failures of a tree -/

theorem failuresFrom_append (stage : Option Stage) (base : String) (index : Nat)
    (ts us : List Tree) :
    failuresFrom stage base index (ts ++ us) =
      failuresFrom stage base index ts ++ failuresFrom stage base (index + ts.length) us := by
  simp only [failuresFrom_eq_flatMap, List.zipIdx_append, List.flatMap_append]

/-- Failures of some children come from one of them, with its index in the path. -/
theorem exists_child_of_mem_failuresFrom {stage : Option Stage} {base : String} {index : Nat}
    {ts : List Tree} {f : Failure} (h : f ∈ failuresFrom stage base index ts) :
    ∃ i, ∃ t : Tree, ts[i]? = some t ∧ f ∈ t.failures stage (childPath base (index + i)) := by
  rw [failuresFrom_eq_flatMap, List.mem_flatMap] at h
  obtain ⟨⟨t, place⟩, hplace, hf⟩ := h
  obtain ⟨hle, ht⟩ := List.mk_mem_zipIdx_iff_le_and_getElem?_sub.1 hplace
  refine ⟨place - index, t, ht, ?_⟩
  rwa [Nat.add_sub_cancel' hle]

/-- **Every failure of a tree is one of some leaf**, with the path of that leaf. -/
theorem exists_leaf_of_mem_failures {stage : Option Stage} {t : Tree} {base : String} {f : Failure}
    (h : f ∈ t.failures stage base) :
    ∃ way c, t.at? way = some (leaf c) ∧ f ∈ leafFailures stage c (nodePath base way) := by
  rw [failures_eq_flatMap, List.mem_flatMap] at h
  obtain ⟨⟨way, c⟩, hleaf, hf⟩ := h
  exact ⟨way, c, mem_leaves_iff.1 hleaf, hf⟩

/-! ### Editing one node -/

/-- Whether a failure belongs to a way that does not lead through the end of another. -/
def LiesElsewhere (base : String) (way : List Nat) (f : Failure) : Prop :=
  ∃ other field, ¬ way <+: other ∧ f.path = leafPath base other field

theorem liesElsewhere_of_ne {stage : Option Stage} {base : String} {i j : Nat} {way : List Nat}
    {t : Tree} {f : Failure} (h : f ∈ t.failures stage (childPath base j)) (hne : i ≠ j) :
    LiesElsewhere base (i :: way) f := by
  obtain ⟨other, c, -, hf⟩ := exists_leaf_of_mem_failures h
  obtain ⟨field, -, hpath⟩ := exists_field_of_mem_leafFailures hf
  refine ⟨j :: other, field, fun hprefix => ?_, hpath⟩
  exact hne (List.cons_prefix_cons.1 hprefix).1

theorem LiesElsewhere.cons {base : String} {i : Nat} {way : List Nat} {f : Failure}
    (h : LiesElsewhere (childPath base i) way f) : LiesElsewhere base (i :: way) f := by
  obtain ⟨other, field, hother, hpath⟩ := h
  refine ⟨i :: other, field, fun hprefix => hother ?_, hpath⟩
  exact (List.cons_prefix_cons.1 hprefix).2

theorem liesElsewhere_of_mem_take {stage : Option Stage} {base : String} {cs : List Tree} {i : Nat}
    {way : List Nat} {f : Failure} (h : f ∈ failuresFrom stage base 0 (cs.take i)) :
    LiesElsewhere base (i :: way) f := by
  obtain ⟨j, t, ht, hf⟩ := exists_child_of_mem_failuresFrom h
  have hj : j < i := by
    have hlt := (List.getElem?_eq_some_iff.1 ht).1
    rw [List.length_take] at hlt
    omega
  exact liesElsewhere_of_ne hf (by omega)

theorem liesElsewhere_of_mem_drop {stage : Option Stage} {base : String} {cs : List Tree} {i : Nat}
    {way : List Nat} {f : Failure} (h : f ∈ failuresFrom stage base (i + 1) (cs.drop (i + 1))) :
    LiesElsewhere base (i :: way) f := by
  obtain ⟨j, t, -, hf⟩ := exists_child_of_mem_failuresFrom h
  exact liesElsewhere_of_ne hf (by omega)

/-- The children before and after one that is changed keep their indices, and so their failures. -/
theorem failuresFrom_modify (stage : Option Stage) (base : String) {cs : List Tree} {i : Nat}
    (hlt : i < cs.length) (f : Tree → Tree) :
    failuresFrom stage base 0 (cs.modify i f) =
      failuresFrom stage base 0 (cs.take i) ++ ((f cs[i]).failures stage (childPath base i) ++
        failuresFrom stage base (i + 1) (cs.drop (i + 1))) := by
  rw [List.modify_eq_take_cons_drop hlt, failuresFrom_append, failuresFrom, Nat.zero_add,
    List.length_take, Nat.min_eq_left (Nat.le_of_lt hlt)]

/-- **An edit shows at one place of the report.** The failures of the edited node are replaced by
those of its edited form, and what stands around them belongs to other ways. -/
theorem failures_applyAt {t u : Tree} {way : List Nat} (h : t.at? way = some u)
    (stage : Option Stage) (base : String) :
    ∃ front back,
      t.failures stage base = front ++ u.failures stage (nodePath base way) ++ back ∧
      (∀ f ∈ front ++ back, LiesElsewhere base way f) ∧
      ∀ (e : Editor) (edit : Edit), (e.applyAt edit way t).failures stage base =
        front ++ (e.apply edit u).failures stage (nodePath base way) ++ back := by
  induction way generalizing t base with
  | nil =>
    obtain rfl := Option.some.inj h
    exact ⟨[], [], by simp [nodePath], by simp, fun e edit => by simp [nodePath, Editor.applyAt]⟩
  | cons i way ih =>
    cases t with
    | leaf c => cases h
    | branch o cs =>
      rw [at?, Option.bind_eq_some_iff] at h
      obtain ⟨child, hchild, hu⟩ := h
      obtain ⟨hlt, rfl⟩ := List.getElem?_eq_some_iff.1 hchild
      obtain ⟨front, back, hreport, helsewhere, hedited⟩ := ih hu (childPath base i)
      -- The failures of the other children join those that surround the node within its child.
      refine ⟨failuresFrom stage base 0 (cs.take i) ++ front,
        back ++ failuresFrom stage base (i + 1) (cs.drop (i + 1)), ?_, ?_, ?_⟩
      · -- The report as it is comes from the child changed into itself.
        have hself := failuresFrom_modify stage base hlt id
        rw [List.modify_id, id, hreport] at hself
        simpa [failures, nodePath] using hself
      · intro f hf
        simp only [List.mem_append] at hf
        rcases hf with (hf | hf) | hf | hf
        · exact liesElsewhere_of_mem_take hf
        · exact (helsewhere f (List.mem_append_left _ hf)).cons
        · exact (helsewhere f (List.mem_append_right _ hf)).cons
        · exact liesElsewhere_of_mem_drop hf
      · intro e edit
        have hmodified := failuresFrom_modify stage base hlt (e.applyAt edit way)
        rw [hedited] at hmodified
        simpa [failures, nodePath, Editor.applyAt] using hmodified

/-! ### Patching a leaf -/

/-- **A failure leads to the leaf that is at fault, and patching it changes that leaf's failures
alone.** Every failure shows the way to a leaf and a field. Whatever way a failure shows, there is a
leaf at its end whose failures hold it. They stand together in the report, no other failure shows
that way, and a patch of the leaf puts the failures of the patched condition in their place. -/
theorem failures_of_patched (t : Tree) (stage : Option Stage) (base : String) (f : Failure)
    (h : f ∈ t.failures stage base) :
    (∃ way, ∃ field ∈ checkedFields, f.path = leafPath base way field) ∧
    ∀ way field, f.path = leafPath base way field →
      ∃ c front back,
        t.at? way = some (leaf c) ∧
        f ∈ leafFailures stage c (nodePath base way) ∧
        t.failures stage base = front ++ leafFailures stage c (nodePath base way) ++ back ∧
        (∀ g ∈ front ++ back, ∀ field, g.path ≠ leafPath base way field) ∧
        ∀ (e : Editor) (patch : Patch),
          (e.applyAt (.setCondition patch) way t).failures stage base =
            front ++ leafFailures stage (patch.apply c) (nodePath base way) ++ back := by
  obtain ⟨way, c, hc, hf⟩ := exists_leaf_of_mem_failures h
  obtain ⟨field, hfield, hpath⟩ := exists_field_of_mem_leafFailures hf
  refine ⟨⟨way, field, hfield, hpath⟩, fun way' field' hpath' => ?_⟩
  -- The failure shows one way only, which is that to its own leaf.
  obtain ⟨rfl, -⟩ := leafPath_inj (hpath.symm.trans hpath')
  obtain ⟨front, back, hreport, helsewhere, hedited⟩ := failures_applyAt hc stage base
  refine ⟨c, front, back, hc, hf, by rw [hreport, failures], ?_, fun e patch => ?_⟩
  · intro g hg field hgpath
    obtain ⟨other, otherField, hother, hgother⟩ := helsewhere g hg
    obtain ⟨rfl, -⟩ := leafPath_inj (hgpath.symm.trans hgother)
    exact hother (List.prefix_refl way)
  · rw [hedited e (.setCondition patch), Editor.apply, Editor.setCondition, failures]

/-- A tree with a fault in the value of each of its three leaves. -/
def faultyTree : Tree :=
  .branch .and [
    .leaf (.ofOp .country "th"),
    .branch .or [.leaf (.ofOp .cidr "10.0.0.1"), .leaf (.ofOp .os "ios")]]

/-- What is wrong with the address in the tree. -/
def addressFailure : Failure :=
  ⟨.valueGrammar, "root_node.children[1].children[0].condition.value",
    Net.Cidr.complaint "10.0.0.1"⟩

theorem failures_of_patched_address :
    addressFailure ∈ faultyTree.failures none "root_node" ∧
      addressFailure.path = leafPath "root_node" [1, 0] "value" ∧
      ∃ c front back,
        faultyTree.at? [1, 0] = some (leaf c) ∧
        addressFailure ∈ leafFailures none c (nodePath "root_node" [1, 0]) ∧
        faultyTree.failures none "root_node" =
          front ++ leafFailures none c (nodePath "root_node" [1, 0]) ++ back ∧
        (∀ g ∈ front ++ back, ∀ field, g.path ≠ leafPath "root_node" [1, 0] field) ∧
        ∀ (e : Editor) (patch : Patch),
          (e.applyAt (.setCondition patch) [1, 0] faultyTree).failures none "root_node" =
            front ++ leafFailures none (patch.apply c) (nodePath "root_node" [1, 0]) ++ back := by
  have hmem : addressFailure ∈ faultyTree.failures none "root_node" := by decide +kernel
  have hpath : addressFailure.path = leafPath "root_node" [1, 0] "value" := by decide +kernel
  exact ⟨hmem, hpath,
    (failures_of_patched faultyTree none "root_node" addressFailure hmem).2 [1, 0] "value" hpath⟩

end Tree

end ZeroTrust
