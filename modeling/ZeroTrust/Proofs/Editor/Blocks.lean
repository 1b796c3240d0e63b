/-
  `Proofs.Editor.Blocks` — no edit loses a condition that it is not meant to lose.

  The conditions of a node stand together among those of the tree. Before them stand
  those of the children that its path passes over, after them those of the children that
  it does not come to, at each branch on the way (`Tree.conditionsBefore`,
  `Tree.conditionsAfter`). So the path of a node tells the place of its block, and
  `Tree.withBlock` puts other conditions there.

  Changing a node exchanges its block and nothing else (`Tree.conditions_modifyAt`). The
  block of a child lies within that of its parent, at the path with the index of the
  child (`Tree.withBlock_append`). It is then enough to say for each edit what it does to
  the conditions of the node that it is aimed at.
-/
import ZeroTrust.Proofs.Editor.Addressing

namespace ZeroTrust

namespace Tree

/-! ### The way to a node -/

/-- Whether a path leads to a node, into one child after another. -/
inductive Leads (n : Tree) : List Nat → Tree → Prop where
  | here : Leads n [] n
  | into {i : Nat} {path : List Nat} {o : Connective} {cs : List Tree} {child : Tree}
    (hchild : cs[i]? = some child) (h : Leads n path child) : Leads n (i :: path) (branch o cs)

variable {t n : Tree} {path : List Nat}

theorem leads_of_at? (h : t.at? path = some n) : Leads n path t := by
  induction path generalizing t with
  | nil =>
    obtain rfl := Option.some.inj h
    exact .here
  | cons i path ih =>
    cases t with
    | leaf c => cases h
    | branch o cs =>
      rw [at?_cons_branch, Option.bind_eq_some_iff] at h
      obtain ⟨child, hchild, hn⟩ := h
      exact .into hchild (ih hn)

/-! ### Where the conditions of a node stand -/

/-- The conditions of a tree before those of the node that a path leads to. -/
def conditionsBefore : List Nat → Tree → List Condition
  | [], _ => []
  | _ :: _, leaf _ => []
  | i :: path, branch _ cs =>
    (cs.take i).flatMap conditions ++ cs[i]?.elim [] (conditionsBefore path)

/-- The conditions of a tree after those of the node that a path leads to. -/
def conditionsAfter : List Nat → Tree → List Condition
  | [], _ => []
  | _ :: _, leaf _ => []
  | i :: path, branch _ cs =>
    cs[i]?.elim [] (conditionsAfter path) ++ (cs.drop (i + 1)).flatMap conditions

/-- The conditions of a tree with some others in the place of those of the node that a path leads
to. -/
def withBlock (path : List Nat) (block : List Condition) (t : Tree) : List Condition :=
  t.conditionsBefore path ++ block ++ t.conditionsAfter path

/-- **Changing a node exchanges its block** and keeps all other conditions. -/
theorem conditions_modifyAt (f : Tree → Tree) (h : Leads n path t) :
    (t.modifyAt f path).conditions = t.withBlock path (f n).conditions := by
  unfold withBlock
  induction h with
  | here => simp [conditionsBefore, conditionsAfter]
  | into hchild _ ih =>
    obtain ⟨hlt, rfl⟩ := List.getElem?_eq_some_iff.1 hchild
    -- The children beside the one on the way keep their conditions.
    rw [modifyAt_cons_branch, conditions_branch, List.modify_eq_take_cons_drop hlt,
      List.flatMap_append, List.flatMap_cons, ih]
    simp [conditionsBefore, conditionsAfter, hchild]

/-- The conditions of a node are its block. -/
theorem conditions_eq_withBlock (h : Leads n path t) :
    t.conditions = t.withBlock path n.conditions := by
  have hself : t.modifyAt id path = t := modifyAt_eq_self id fun _ _ => rfl
  have hblock := conditions_modifyAt id h
  rw [hself] at hblock
  exact hblock

theorem conditionsBefore_append (h : Leads n path t) (rest : List Nat) :
    t.conditionsBefore (path ++ rest) = t.conditionsBefore path ++ n.conditionsBefore rest := by
  induction h with
  | here => rfl
  | into hchild _ ih => simp [conditionsBefore, hchild, ih]

theorem conditionsAfter_append (h : Leads n path t) (rest : List Nat) :
    t.conditionsAfter (path ++ rest) = n.conditionsAfter rest ++ t.conditionsAfter path := by
  induction h with
  | here => simp [conditionsAfter]
  | into hchild _ ih => simp [conditionsAfter, hchild, ih]

/-- **The block of a node below lies within that of the node above.** -/
theorem withBlock_append (h : Leads n path t) (rest : List Nat) (block : List Condition) :
    t.withBlock (path ++ rest) block = t.withBlock path (n.withBlock rest block) := by
  unfold withBlock
  rw [conditionsBefore_append h, conditionsAfter_append h]
  simp only [List.append_assoc]

end Tree

namespace Editor

variable (e : Editor) {n : Tree}

/-! ### What an edit does to the conditions of the edited node -/

/-- The conditions of a child that is added come last, where none are dropped for it. -/
theorem conditions_append (child : Tree) (h : e.conversion = .wrap ∨ n.isLeaf = false) :
    (e.append child n).conditions = n.conditions ++ child.conditions := by
  cases n with
  | branch o cs => simp [append]
  | leaf c =>
    rcases h with hwrap | hbranch
    · simp [append, hwrap]
    · cases hbranch

/-- The conditions of a child that is added to a leaf are all there are, where the leaf is dropped
for it. -/
theorem conditions_append_of_replace (child : Tree) (h : e.conversion = .replace)
    (hleaf : n.isLeaf = true) : (e.append child n).conditions = child.conditions := by
  cases n with
  | branch o cs => cases hleaf
  | leaf c => simp [append, h]

theorem conditions_setConnective (o : Connective) (n : Tree) :
    (setConnective o n).conditions = n.conditions := by
  cases n with
  | leaf c => rfl
  | branch p cs => rw [setConnective, Tree.conditions_branch, Tree.conditions_branch]

/-- Removing a child takes its block out of that of its parent. -/
theorem conditions_removeChild {i : Nat} {child : Tree} (h : n.at? [i] = some child) :
    (removeChild i n).conditions = n.withBlock [i] [] := by
  cases n with
  | leaf c => cases h
  | branch o cs =>
    rw [Tree.at?_cons_branch, Option.bind_eq_some_iff] at h
    obtain ⟨child', hchild, -⟩ := h
    rw [removeChild, Tree.conditions_branch, List.eraseIdx_eq_take_drop_succ, List.flatMap_append]
    simp [Tree.withBlock, Tree.conditionsBefore, Tree.conditionsAfter, hchild]

theorem removeChild_eq_self {i : Nat}
    (h : n.isLeaf = true ∨ ∃ o cs, n = .branch o cs ∧ cs.length ≤ i) : removeChild i n = n := by
  rcases h with hleaf | ⟨o, cs, rfl, hlength⟩
  · cases n with
    | leaf c => rfl
    | branch o cs => cases hleaf
  · rw [removeChild, List.eraseIdx_of_length_le hlength]

theorem setCondition_eq_self (patch : Patch) (h : n.isLeaf = false) :
    setCondition patch n = n := by
  cases n with
  | leaf c => cases h
  | branch o cs => rfl

/-! ### What it does to the conditions of the tree -/

theorem conditions_applyAt_of_leads (edit : Edit) {t : Tree} {path : List Nat}
    (h : Tree.Leads n path t) :
    (e.applyAt edit path t).conditions = t.withBlock path (e.apply edit n).conditions := by
  rw [applyAt_eq_modifyAt]
  exact Tree.conditions_modifyAt _ h

/-- An edit that keeps the conditions of the node keeps those of the tree. -/
theorem conditions_applyAt_eq_self {edit : Edit} {t : Tree} {path : List Nat}
    (h : Tree.Leads n path t) (hedit : (e.apply edit n).conditions = n.conditions) :
    (e.applyAt edit path t).conditions = t.conditions := by
  rw [e.conditions_applyAt_of_leads edit h, hedit, Tree.conditions_eq_withBlock h]

/-- **No edit loses a condition that it is not meant to lose.** The conditions of the edited node
are the block at its path, and all others stay as they are. An added condition comes right behind
the block, and an added group brings none; only a leaf that is to be dropped for what is added loses
its own condition. Another connective changes nothing. A removed child takes its own block along,
and with no child to remove nothing changes. A patch changes the condition of a leaf at the path,
and nothing at a branch. -/
theorem conditions_applyAt {t : Tree} {path : List Nat} (h : t.at? path = some n) :
    t.conditions = t.withBlock path n.conditions ∧
    (∃ d, e.defaultLeaf = .leaf d ∧
      (e.conversion = .wrap ∨ n.isLeaf = false →
        (e.applyAt .addCondition path t).conditions = t.withBlock path (n.conditions ++ [d]) ∧
          (e.applyAt .addSubGroup path t).conditions = t.conditions) ∧
      (e.conversion = .replace → n.isLeaf = true →
        (e.applyAt .addCondition path t).conditions = t.withBlock path [d] ∧
          (e.applyAt .addSubGroup path t).conditions = t.withBlock path [])) ∧
    (∀ o, (e.applyAt (.setConnective o) path t).conditions = t.conditions) ∧
    (∀ i child, t.at? (path ++ [i]) = some child →
      t.conditions = t.withBlock (path ++ [i]) child.conditions ∧
        (e.applyAt (.removeChild i) path t).conditions = t.withBlock (path ++ [i]) []) ∧
    (∀ i, n.isLeaf = true ∨ (∃ o cs, n = .branch o cs ∧ cs.length ≤ i) →
      (e.applyAt (.removeChild i) path t).conditions = t.conditions) ∧
    ∀ patch,
      (∀ c, n = .leaf c →
        (e.applyAt (.setCondition patch) path t).conditions =
          t.withBlock path [patch.apply c]) ∧
      (n.isLeaf = false →
        (e.applyAt (.setCondition patch) path t).conditions = t.conditions) := by
  have hleads : Tree.Leads n path t := Tree.leads_of_at? h
  refine ⟨Tree.conditions_eq_withBlock hleads, ⟨_, rfl, ?_, ?_⟩, ?_, ?_, ?_, ?_⟩
  · -- What is added to a branch, or to a leaf that is wrapped for it, comes behind the block.
    intro hstays
    constructor
    · rw [e.conditions_applyAt_of_leads .addCondition hleads, apply, e.conditions_append _ hstays]
      rfl
    · apply e.conditions_applyAt_eq_self hleads
      rw [apply, e.conditions_append _ hstays]
      simp [defaultGroup]
  · -- A leaf that is dropped gives its block up for what is added.
    intro hreplace hleaf
    constructor
    · rw [e.conditions_applyAt_of_leads .addCondition hleads, apply,
        e.conditions_append_of_replace _ hreplace hleaf]
      rfl
    · rw [e.conditions_applyAt_of_leads .addSubGroup hleads, apply,
        e.conditions_append_of_replace _ hreplace hleaf]
      simp [defaultGroup]
  · intro o
    exact e.conditions_applyAt_eq_self hleads (conditions_setConnective o n)
  · -- The block of a child lies within that of its parent, and goes with the child.
    intro i child hchild
    refine ⟨Tree.conditions_eq_withBlock (Tree.leads_of_at? hchild), ?_⟩
    rw [Tree.at?_append, h, Option.bind_some] at hchild
    rw [e.conditions_applyAt_of_leads (.removeChild i) hleads, apply, conditions_removeChild hchild,
      Tree.withBlock_append hleads]
  · -- There is no child to remove, so the node stays as it is.
    intro i hnone
    apply e.conditions_applyAt_eq_self hleads
    rw [apply, removeChild_eq_self hnone]
  · -- A patch is for leaves.
    intro patch
    constructor
    · rintro c rfl
      rw [e.conditions_applyAt_of_leads (.setCondition patch) hleads, apply, setCondition,
        Tree.conditions_leaf]
    · intro hbranch
      apply e.conditions_applyAt_eq_self hleads
      rw [apply, setCondition_eq_self patch hbranch]

/-- Edits of the group in the middle of the tree, and of the first leaf in it. -/
theorem conditions_applyAt_nestedTree :
    nestedTree.at? [1] =
        some (.branch .or [.leaf (.ofOp .os "linux"), .leaf (.ofOp .managed "")]) ∧
      nestedTree.at? [1, 0] = some (.leaf (.ofOp .os "linux")) ∧
      ((Editor.mk none .wrap).applyAt .addCondition [1] nestedTree).conditions =
        [.ofOp .inGroup "eng", .ofOp .os "linux", .ofOp .managed "", .ofOp .inGroup "",
          .ofOp .country "DE"] ∧
      ((Editor.mk none .wrap).applyAt (.removeChild 1) [1] nestedTree).conditions =
        [.ofOp .inGroup "eng", .ofOp .os "linux", .ofOp .country "DE"] ∧
      ((Editor.mk none .replace).applyAt .addCondition [1, 0] nestedTree).conditions =
        [.ofOp .inGroup "eng", .ofOp .inGroup "", .ofOp .managed "", .ofOp .country "DE"] ∧
      ((Editor.mk none .replace).applyAt (.setCondition ⟨none, none, some "darwin"⟩) [1, 0]
          nestedTree).conditions =
        [.ofOp .inGroup "eng", .ofOp .os "darwin", .ofOp .managed "", .ofOp .country "DE"] := by
  have hgroup : nestedTree.at? [1] =
      some (.branch .or [.leaf (.ofOp .os "linux"), .leaf (.ofOp .managed "")]) := rfl
  have hleaf : nestedTree.at? [1, 0] = some (.leaf (.ofOp .os "linux")) := rfl
  obtain ⟨-, ⟨d, hd, hadded, -⟩, -, hremoved, -, -⟩ :=
    (Editor.mk none .wrap).conditions_applyAt hgroup
  obtain ⟨-, ⟨d', hd', -, hreplaced⟩, -, -, -, hpatched⟩ :=
    (Editor.mk none .replace).conditions_applyAt hleaf
  obtain rfl := Tree.leaf.inj hd
  obtain rfl := Tree.leaf.inj hd'
  exact ⟨hgroup, hleaf, (hadded (.inl rfl)).1, (hremoved 1 (.leaf (.ofOp .managed "")) rfl).2,
    (hreplaced rfl rfl).1, (hpatched ⟨none, none, some "darwin"⟩).1 _ rfl⟩

end Editor

end ZeroTrust
