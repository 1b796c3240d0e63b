/-
  `Proofs.Validation.Leaves` — the failures of a tree are those of its leaves.

  What a report should hold can be said without walking the tree. `Tree.leaves` lists the
  leaves depth first, each with the way to it. This is the order of the ways
  (`Tree.pairwise_leaves`), nothing is left out (`Tree.mem_leaves_iff`), and the
  conditions are those that the tree lists itself (`Tree.map_snd_leaves`).

  A check walks the tree and puts the text of the way together as it goes down. It finds
  the failures of these leaves in this order, each with the path of its own leaf
  (`Tree.failures_eq_flatMap`).
-/
import Mathlib.Data.List.Basic
import ZeroTrust.Editor.Basic
import ZeroTrust.Validation.Tree

namespace ZeroTrust.Tree

/-! ### Leaves and the ways to them -/

mutual

/-- The leaves of a tree, depth first and left to right, each as the way to it and its condition. -/
def leaves : Tree → List (List Nat × Condition)
  | leaf c => [([], c)]
  | branch _ cs => leavesFrom 0 cs

/-- The leaves of the children of a branch from an index on. -/
def leavesFrom (index : Nat) : List Tree → List (List Nat × Condition)
  | [] => []
  | t :: ts => (leaves t).map (fun l => (index :: l.1, l.2)) ++ leavesFrom (index + 1) ts

end

@[simp] theorem leaves_leaf (c : Condition) : leaves (leaf c) = [([], c)] := by
  rw [leaves]

theorem leavesFrom_eq_flatMap (index : Nat) (ts : List Tree) :
    leavesFrom index ts =
      (ts.zipIdx index).flatMap fun p => p.1.leaves.map fun l => (p.2 :: l.1, l.2) := by
  induction ts generalizing index with
  | nil => rfl
  | cons t ts ih => rw [leavesFrom, ih, List.zipIdx_cons, List.flatMap_cons]

theorem leaves_branch (o : Connective) (cs : List Tree) :
    leaves (branch o cs) =
      cs.zipIdx.flatMap fun p => p.1.leaves.map fun l => (p.2 :: l.1, l.2) := by
  rw [leaves, leavesFrom_eq_flatMap]

/-- **All leaves are listed**, each with the way that leads to it. -/
theorem mem_leaves_iff {t : Tree} {way : List Nat} {c : Condition} :
    (way, c) ∈ t.leaves ↔ t.at? way = some (leaf c) := by
  induction t using Tree.induction generalizing way with
  | leaf d =>
    cases way with
    | nil => simp [at?, eq_comm]
    | cons i way => simp [at?]
  | branch o cs ih =>
    rw [leaves_branch]
    simp only [List.mem_flatMap, List.mem_map, Prod.exists, Prod.mk.injEq,
      List.mk_mem_zipIdx_iff_getElem?]
    constructor
    · rintro ⟨child, i, hchild, rest, d, hmem, rfl, rfl⟩
      rw [at?, hchild, Option.bind_some]
      exact (ih child (List.mem_of_getElem? hchild)).1 hmem
    · intro h
      cases way with
      | nil => cases Option.some.inj h
      | cons i rest =>
        rw [at?, Option.bind_eq_some_iff] at h
        obtain ⟨child, hchild, hleaf⟩ := h
        exact ⟨child, i, hchild, rest, c, (ih child (List.mem_of_getElem? hchild)).2 hleaf, rfl,
          rfl⟩

/-- The conditions of the leaves are those of the tree, in order. -/
theorem map_snd_leaves (t : Tree) : t.leaves.map Prod.snd = t.conditions := by
  induction t using Tree.induction with
  | leaf c => rw [leaves_leaf, conditions_leaf, List.map_singleton]
  | branch o cs ih =>
    rw [leaves_branch, conditions_branch, List.map_flatMap]
    -- The index goes into the ways alone.
    have hchildren : cs.flatMap conditions = cs.zipIdx.flatMap fun p => p.1.conditions := by
      rw [← List.flatMap_map Prod.fst, List.zipIdx_map_fst]
    rw [hchildren]
    refine List.flatMap_congr fun p hp => ?_
    rw [List.map_map, ← ih p.1 (List.fst_mem_of_mem_zipIdx hp)]
    rfl

theorem mem_conditions_of_at? {t : Tree} {c : Condition} {path : List Nat}
    (h : t.at? path = some (leaf c)) : c ∈ t.conditions := by
  rw [← map_snd_leaves]
  exact List.mem_map_of_mem (f := Prod.snd) (mem_leaves_iff.2 h)

theorem pairwise_zipIdx (index : Nat) (ts : List Tree) :
    (ts.zipIdx index).Pairwise fun p q => p.2 < q.2 := by
  have hindices : ((ts.zipIdx index).map Prod.snd).Pairwise (· < ·) := by
    rw [List.zipIdx_map_snd]
    exact List.pairwise_lt_range'
  exact List.pairwise_map.1 hindices

/-- **Depth first is the order of the ways**: each leaf comes before those to its right. -/
theorem pairwise_leaves (t : Tree) : t.leaves.Pairwise fun l m => l.1 < m.1 := by
  induction t using Tree.induction with
  | leaf c => rw [leaves_leaf]; exact List.pairwise_singleton _ _
  | branch o cs ih =>
    rw [leaves_branch, List.pairwise_flatMap]
    refine ⟨fun p hp => ?_, (pairwise_zipIdx 0 cs).imp fun hlt l hl m hm => ?_⟩
    · -- Within a child the ways begin alike, so they are in the order of what follows.
      rw [List.pairwise_map]
      refine (ih p.1 (List.fst_mem_of_mem_zipIdx hp)).imp fun h => ?_
      exact List.cons_lt_cons_iff.2 (.inr ⟨rfl, h⟩)
    · -- Of two children the index decides, whatever follows it.
      obtain ⟨l, -, rfl⟩ := List.mem_map.1 hl
      obtain ⟨m, -, rfl⟩ := List.mem_map.1 hm
      exact List.cons_lt_cons_iff.2 (.inl hlt)

/-! ### The failures of the leaves -/

/-- The path of the node at the end of a way. -/
def nodePath (base : String) : List Nat → String
  | [] => base
  | i :: way => nodePath (childPath base i) way

theorem failuresFrom_eq_flatMap (stage : Option Stage) (base : String) (index : Nat)
    (ts : List Tree) :
    failuresFrom stage base index ts =
      (ts.zipIdx index).flatMap fun p => p.1.failures stage (childPath base p.2) := by
  induction ts generalizing index with
  | nil => rfl
  | cons t ts ih => rw [failuresFrom, ih, List.zipIdx_cons, List.flatMap_cons]

/-- **The walk finds the failures of the leaves**, in their order and with the paths of their
ways. -/
theorem failures_eq_flatMap (t : Tree) (stage : Option Stage) (base : String) :
    t.failures stage base =
      t.leaves.flatMap fun l => leafFailures stage l.2 (nodePath base l.1) := by
  induction t using Tree.induction generalizing base with
  | leaf c => rw [failures, leaves_leaf, List.flatMap_singleton, nodePath]
  | branch o cs ih =>
    rw [failures, failuresFrom_eq_flatMap, leaves_branch, List.flatMap_assoc]
    refine List.flatMap_congr fun p hp => ?_
    rw [ih p.1 (List.fst_mem_of_mem_zipIdx hp), List.flatMap_map]
    rfl

end ZeroTrust.Tree
