/-
  `Proofs.Editor.Addressing` — an edit reaches the node it is aimed at, and no other.

  Editing at a path is changing the node at its end by some function
  (`Editor.applyAt_eq_modifyAt`), and how the rest of the tree comes through does not
  depend on the function. So the laws are those of `Tree.modifyAt`:

  * the node at the end of the path is changed (`Tree.at?_modifyAt_self`);
  * a node above it is changed at the rest of the path (`Tree.at?_modifyAt_append`), and
    so keeps its connective and the number of its children;
  * a node that is neither above nor below is as it was (`Tree.at?_modifyAt_of_apart`);
  * where the path leads nowhere, or to a node that the function leaves as it is, the
    tree stays as it is (`Tree.modifyAt_eq_self`);
  * two changes at one path are one (`Tree.modifyAt_modifyAt`), and changes at two paths
    commute when neither path begins with the other (`Tree.modifyAt_comm_of_apart`).
-/
import ZeroTrust.Editor.Basic

namespace ZeroTrust

/-- A change of the member at a place of a list that leaves this member as it is. -/
theorem modify_eq_self_of_getElem? {α : Type} {f : α → α} {xs : List α} {i : Nat}
    (hself : ∀ a, xs[i]? = some a → f a = a) : xs.modify i f = xs := by
  apply List.ext_getElem?
  intro j
  rw [List.getElem?_modify]
  cases hj : xs[j]? with
  | none => rfl
  | some a =>
    by_cases hij : i = j
    · subst hij
      simp [hself a hj]
    · simp [hij]

namespace Tree

/-- A tree with the node at the end of a path changed. Nothing changes where the path leads
nowhere. -/
def modifyAt (f : Tree → Tree) : List Nat → Tree → Tree
  | [], t => f t
  | _ :: _, leaf c => leaf c
  | i :: path, branch o cs => branch o (cs.modify i (modifyAt f path))

section Laws

variable (f g : Tree → Tree) {t : Tree} {path other : List Nat}

@[simp] theorem modifyAt_nil (t : Tree) : t.modifyAt f [] = f t := rfl

@[simp] theorem modifyAt_cons_leaf (i : Nat) (path : List Nat) (c : Condition) :
    (leaf c).modifyAt f (i :: path) = leaf c := rfl

@[simp] theorem modifyAt_cons_branch (i : Nat) (path : List Nat) (o : Connective)
    (cs : List Tree) :
    (branch o cs).modifyAt f (i :: path) = branch o (cs.modify i (modifyAt f path)) := rfl

@[simp] theorem at?_nil (t : Tree) : t.at? [] = some t := rfl

@[simp] theorem at?_cons_leaf (i : Nat) (path : List Nat) (c : Condition) :
    (leaf c).at? (i :: path) = none := rfl

@[simp] theorem at?_cons_branch (i : Nat) (path : List Nat) (o : Connective) (cs : List Tree) :
    (branch o cs).at? (i :: path) = cs[i]?.bind (at? path) := rfl

/-- A path that is put together leads on from where its first part leads. -/
theorem at?_append (above rest : List Nat) (t : Tree) :
    t.at? (above ++ rest) = (t.at? above).bind (at? rest) := by
  induction above generalizing t with
  | nil => rfl
  | cons i above ih =>
    cases t with
    | leaf c => rfl
    | branch o cs =>
      rw [List.cons_append, at?_cons_branch, at?_cons_branch, Option.bind_assoc]
      congr 1
      funext child
      exact ih child

/-- A change at a path that is put together is a change below, made where its first part leads. -/
theorem modifyAt_append (above rest : List Nat) (t : Tree) :
    t.modifyAt f (above ++ rest) = t.modifyAt (modifyAt f rest) above := by
  induction above generalizing t with
  | nil => rfl
  | cons i above ih =>
    cases t with
    | leaf c => rfl
    | branch o cs =>
      have hchild : modifyAt f (above ++ rest) = modifyAt (modifyAt f rest) above := funext ih
      rw [List.cons_append, modifyAt_cons_branch, modifyAt_cons_branch, hchild]

/-- **The node at the end of the path** is changed. -/
theorem at?_modifyAt_self (path : List Nat) (t : Tree) :
    (t.modifyAt f path).at? path = (t.at? path).map f := by
  induction path generalizing t with
  | nil => rfl
  | cons i path ih =>
    cases t with
    | leaf c => rfl
    | branch o cs =>
      rw [modifyAt_cons_branch, at?_cons_branch, at?_cons_branch, List.getElem?_modify]
      cases cs[i]? with
      | none => rfl
      | some child => simpa using ih child

/-- **A node above the change** is changed at the rest of the path. -/
theorem at?_modifyAt_append (above rest : List Nat) (t : Tree) :
    (t.modifyAt f (above ++ rest)).at? above = (t.at? above).map (modifyAt f rest) := by
  rw [modifyAt_append, at?_modifyAt_self]

/-- **A node that is neither above nor below the change** is as it was. -/
theorem at?_modifyAt_of_apart (hleft : ¬ path <+: other) (hright : ¬ other <+: path) :
    (t.modifyAt f path).at? other = t.at? other := by
  induction path generalizing other t with
  | nil => exact absurd List.nil_prefix hleft
  | cons i path ih =>
    cases other with
    | nil => exact absurd List.nil_prefix hright
    | cons j other =>
      cases t with
      | leaf c => rfl
      | branch o cs =>
        rw [modifyAt_cons_branch, at?_cons_branch, at?_cons_branch, List.getElem?_modify]
        cases cs[j]? with
        | none => rfl
        | some child =>
          by_cases hij : i = j
          · -- Both paths go into one child, and there they are apart.
            subst hij
            rw [List.prefix_cons_inj] at hleft hright
            have hchild : (child.modifyAt f path).at? other = child.at? other := ih hleft hright
            simpa using hchild
          · simp [hij]

/-- **A change that does nothing to the node at the end of the path**, or finds none there, does
nothing. -/
theorem modifyAt_eq_self (h : ∀ n, t.at? path = some n → f n = n) : t.modifyAt f path = t := by
  induction path generalizing t with
  | nil => exact h t rfl
  | cons i path ih =>
    cases t with
    | leaf c => rfl
    | branch o cs =>
      rw [modifyAt_cons_branch]
      congr 1
      apply modify_eq_self_of_getElem?
      intro child hchild
      apply ih
      intro n hn
      apply h
      rw [at?_cons_branch, hchild, Option.bind_some, hn]

theorem modifyAt_eq_self_of_at?_eq_none (h : t.at? path = none) : t.modifyAt f path = t := by
  apply modifyAt_eq_self
  intro n hn
  rw [h] at hn
  cases hn

/-- **Two changes at one path** are one change. -/
theorem modifyAt_modifyAt (path : List Nat) (t : Tree) :
    (t.modifyAt f path).modifyAt g path = t.modifyAt (g ∘ f) path := by
  induction path generalizing t with
  | nil => rfl
  | cons i path ih =>
    cases t with
    | leaf c => rfl
    | branch o cs =>
      have hchild : modifyAt g path ∘ modifyAt f path = modifyAt (g ∘ f) path := funext ih
      rw [modifyAt_cons_branch, modifyAt_cons_branch, modifyAt_cons_branch,
        List.modify_modify_eq, hchild]

/-- **Changes that are apart commute**: neither of their paths begins with the other. -/
theorem modifyAt_comm_of_apart (hleft : ¬ path <+: other) (hright : ¬ other <+: path) :
    (t.modifyAt f path).modifyAt g other = (t.modifyAt g other).modifyAt f path := by
  induction path generalizing other t with
  | nil => exact absurd List.nil_prefix hleft
  | cons i path ih =>
    cases other with
    | nil => exact absurd List.nil_prefix hright
    | cons j other =>
      cases t with
      | leaf c => rfl
      | branch o cs =>
        simp only [modifyAt_cons_branch]
        by_cases hij : i = j
        · -- Both changes are made in one child, and there they are apart.
          subst hij
          rw [List.prefix_cons_inj] at hleft hright
          have hchild : modifyAt g other ∘ modifyAt f path =
              modifyAt f path ∘ modifyAt g other := by
            funext child
            exact ih hleft hright
          rw [List.modify_modify_eq, List.modify_modify_eq, hchild]
        · -- They are made in two children.
          rw [List.modify_modify_ne _ _ _ hij]

end Laws

end Tree

namespace Editor

variable (e : Editor)

/-- **Editing at a path** is changing the node at its end. -/
theorem applyAt_eq_modifyAt (edit : Edit) (path : List Nat) (t : Tree) :
    e.applyAt edit path t = t.modifyAt (e.apply edit) path := by
  induction path generalizing t with
  | nil => rfl
  | cons i path ih =>
    cases t with
    | leaf c => rfl
    | branch o cs =>
      have hchild : applyAt e edit path = Tree.modifyAt (e.apply edit) path := funext ih
      rw [applyAt, hchild, Tree.modifyAt_cons_branch]

/-! ### The edited node, those above it, and all others -/

/-- A node above the edited one keeps its connective and the number of its children. -/
theorem exists_branch_above {edit : Edit} {t n : Tree} {path above : List Nat}
    (h : t.at? path = some n) (habove : above <+: path) (hne : above ≠ path) :
    ∃ o cs cs', t.at? above = some (.branch o cs) ∧
      (e.applyAt edit path t).at? above = some (.branch o cs') ∧ cs'.length = cs.length := by
  obtain ⟨rest, rfl⟩ := habove
  cases rest with
  | nil => exact absurd (List.append_nil above).symm hne
  | cons i rest =>
    rw [Tree.at?_append, Option.bind_eq_some_iff] at h
    obtain ⟨m, hm, hn⟩ := h
    -- The path goes on from the node above, so this is no leaf.
    cases m with
    | leaf c => cases hn
    | branch o cs =>
      refine ⟨o, cs, cs.modify i (Tree.modifyAt (e.apply edit) rest), hm, ?_, List.length_modify ..⟩
      rw [applyAt_eq_modifyAt, Tree.at?_modifyAt_append, hm]
      rfl

/-- The child that was added to a branch is the one behind all that it had. -/
theorem removeChild_append (child : Tree) (o : Connective) (cs : List Tree) :
    removeChild cs.length (e.append child (.branch o cs)) = .branch o cs := by
  rw [append, removeChild, List.eraseIdx_append_of_length_le (Nat.le_refl _), Nat.sub_self]
  simp

/-- Removing the child that an edit has added undoes the edit. -/
theorem applyAt_removeChild_of_append {edit : Edit} {child : Tree}
    (hedit : e.apply edit = e.append child) {t : Tree} {path : List Nat} {o : Connective}
    {cs : List Tree} (h : t.at? path = some (.branch o cs)) :
    e.applyAt (.removeChild cs.length) path (e.applyAt edit path t) = t := by
  rw [applyAt_eq_modifyAt, applyAt_eq_modifyAt, Tree.modifyAt_modifyAt]
  apply Tree.modifyAt_eq_self
  intro n hn
  obtain rfl := Option.some.inj (h.symm.trans hn)
  rw [hedit]
  exact e.removeChild_append child o cs

/-- **An edit reaches the node that it is aimed at, and no other.** At the end of its path stands
the edited node. Each node above keeps its connective and the number of its children, and the node
at any other path, of which neither begins with the other, is as it was. An edit whose path leads
nowhere changes nothing. A condition or a group that was added to a branch is taken away again by
removing the child behind those that the branch had. -/
theorem applyAt_reaches (edit : Edit) (path : List Nat) (t : Tree) :
    (∀ n, t.at? path = some n →
      (e.applyAt edit path t).at? path = some (e.apply edit n) ∧
        (∀ above, above <+: path → above ≠ path →
          ∃ o cs cs', t.at? above = some (.branch o cs) ∧
            (e.applyAt edit path t).at? above = some (.branch o cs') ∧
            cs'.length = cs.length) ∧
        ∀ other, ¬ other <+: path → ¬ path <+: other →
          (e.applyAt edit path t).at? other = t.at? other) ∧
    (t.at? path = none → e.applyAt edit path t = t) ∧
    ∀ o cs, t.at? path = some (.branch o cs) →
      e.applyAt (.removeChild cs.length) path (e.applyAt .addCondition path t) = t ∧
        e.applyAt (.removeChild cs.length) path (e.applyAt .addSubGroup path t) = t := by
  refine ⟨fun n hn => ⟨?_, ?_, ?_⟩, ?_, fun o cs hbranch => ⟨?_, ?_⟩⟩
  · -- At the end of the path stands the edited node.
    rw [applyAt_eq_modifyAt, Tree.at?_modifyAt_self, hn]
    rfl
  · -- Above it nodes keep their shape.
    intro above habove hne
    exact e.exists_branch_above hn habove hne
  · -- Nodes apart from the path are not touched.
    intro other hright hleft
    rw [applyAt_eq_modifyAt]
    exact Tree.at?_modifyAt_of_apart _ hleft hright
  · -- Without a node at its end the edit has nothing to do.
    intro hnone
    rw [applyAt_eq_modifyAt]
    exact Tree.modifyAt_eq_self_of_at?_eq_none _ hnone
  · exact e.applyAt_removeChild_of_append rfl hbranch
  · exact e.applyAt_removeChild_of_append rfl hbranch

/-- Engineers with a managed device or one of a system, from one country. -/
def nestedTree : Tree :=
  .branch .and [
    .leaf (.ofOp .inGroup "eng"),
    .branch .or [.leaf (.ofOp .os "linux"), .leaf (.ofOp .managed "")],
    .leaf (.ofOp .country "DE")]

/-- A condition is added to the leaf about the system, which turns into a group of two. The leaf
beside it is as it was, an edit through a leaf changes nothing, and a condition that was added to
the group in the middle is taken away again. -/
theorem applyAt_reaches_nestedTree :
    nestedTree.at? [1, 0] = some (.leaf (.ofOp .os "linux")) ∧
      ((Editor.mk none .wrap).applyAt .addCondition [1, 0] nestedTree).at? [1, 0] =
        some (.branch .and [.leaf (.ofOp .os "linux"), .leaf (.ofOp .inGroup "")]) ∧
      ((Editor.mk none .wrap).applyAt .addCondition [1, 0] nestedTree).at? [1, 1] =
        some (.leaf (.ofOp .managed "")) ∧
      nestedTree.at? [0, 2] = none ∧
      (Editor.mk none .wrap).applyAt .addCondition [0, 2] nestedTree = nestedTree ∧
      (Editor.mk none .wrap).applyAt (.removeChild 2) [1]
          ((Editor.mk none .wrap).applyAt .addCondition [1] nestedTree) = nestedTree := by
  obtain ⟨hreached, -, -⟩ :=
    (Editor.mk none .wrap).applyAt_reaches .addCondition [1, 0] nestedTree
  obtain ⟨hself, -, hapart⟩ := hreached (.leaf (.ofOp .os "linux")) rfl
  obtain ⟨-, hnowhere, -⟩ :=
    (Editor.mk none .wrap).applyAt_reaches .addCondition [0, 2] nestedTree
  obtain ⟨-, -, hundone⟩ := (Editor.mk none .wrap).applyAt_reaches .addCondition [1] nestedTree
  exact ⟨rfl, hself, hapart [1, 1] (by decide) (by decide), rfl, hnowhere rfl,
    (hundone .or [.leaf (.ofOp .os "linux"), .leaf (.ofOp .managed "")] rfl).1⟩

/-- **Edits of separate parts commute**, whether or not there is a node for either. -/
theorem applyAt_comm (edit edit' : Edit) {path path' : List Nat} (hleft : ¬ path <+: path')
    (hright : ¬ path' <+: path) (t : Tree) :
    e.applyAt edit' path' (e.applyAt edit path t) =
      e.applyAt edit path (e.applyAt edit' path' t) := by
  simp only [applyAt_eq_modifyAt]
  exact Tree.modifyAt_comm_of_apart _ _ hleft hright

/-- The first of two children is removed and a group added to the leaf after them, in either
order. -/
theorem applyAt_comm_nestedTree :
    ¬ [1] <+: [2] ∧ ¬ [2] <+: [1] ∧
      (Editor.mk none .replace).applyAt .addSubGroup [2]
          ((Editor.mk none .replace).applyAt (.removeChild 0) [1] nestedTree) =
        .branch .and [
          .leaf (.ofOp .inGroup "eng"),
          .branch .or [.leaf (.ofOp .managed "")],
          .branch .and [.branch .or []]] ∧
      (Editor.mk none .replace).applyAt (.removeChild 0) [1]
          ((Editor.mk none .replace).applyAt .addSubGroup [2] nestedTree) =
        .branch .and [
          .leaf (.ofOp .inGroup "eng"),
          .branch .or [.leaf (.ofOp .managed "")],
          .branch .and [.branch .or []]] := by
  have hleft : ¬ [1] <+: [2] := by decide
  have hright : ¬ [2] <+: [1] := by decide
  have hcomm := (Editor.mk none .replace).applyAt_comm (.removeChild 0) .addSubGroup hleft hright
    nestedTree
  exact ⟨hleft, hright, rfl, hcomm.symm⟩

end Editor

end ZeroTrust
