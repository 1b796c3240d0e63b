/-
  `Tree.Basic` — trees of conditions.

  A tree is a single condition, or a connective over a list of trees. The empty
  conjunction asks for nothing. What the empty disjunction means is for the
  evaluator to say.

  Functions on trees come in pairs, one on a tree and one on a list of trees, and
  each pair recurses on the data alone. Lemmas restate the second of a pair
  through the list operations of the library.
-/
import ZeroTrust.Condition.Basic

namespace ZeroTrust

/-- How a branch combines its children. -/
inductive Connective where
  | and
  | or
  deriving DecidableEq, Repr

namespace Connective

/-- Both connectives. -/
def all : List Connective := [and, or]

/-- The word for a connective. -/
def name : Connective → String
  | and => "AND"
  | or => "OR"

instance : ToString Connective := ⟨name⟩

end Connective

/-- A tree of conditions. -/
inductive Tree where
  | leaf (condition : Condition)
  | branch (connective : Connective) (children : List Tree)
  deriving Repr

namespace Tree

/-! ### Induction and equality -/

mutual

/-- A property of leaves that branches take over from their children holds of every tree. -/
@[elab_as_elim] theorem induction {motive : Tree → Prop}
    (leaf : ∀ condition, motive (leaf condition))
    (branch : ∀ connective children, (∀ t ∈ children, motive t) →
      motive (branch connective children)) : ∀ t, motive t
  | .leaf condition => leaf condition
  | .branch connective children => branch connective children (inductionList leaf branch children)

theorem inductionList {motive : Tree → Prop}
    (leaf : ∀ condition, motive (.leaf condition))
    (branch : ∀ connective children, (∀ t ∈ children, motive t) →
      motive (.branch connective children)) : ∀ ts : List Tree, ∀ t ∈ ts, motive t
  | [] => List.forall_mem_nil _
  | t :: ts =>
    List.forall_mem_cons.2 ⟨induction leaf branch t, inductionList leaf branch ts⟩

end

mutual

/-- Decides whether two trees are equal. -/
def decideEq : (s t : Tree) → Decidable (s = t)
  | leaf c, leaf d =>
    if h : c = d then isTrue (by rw [h]) else isFalse (by simpa using h)
  | branch o cs, branch p ds =>
    match decEq o p, decideEqList cs ds with
    | isTrue ho, isTrue hcs => isTrue (by rw [ho, hcs])
    | isFalse ho, _ => isFalse fun h => ho (by injection h)
    | _, isFalse hcs => isFalse fun h => hcs (by injection h)
  | leaf _, branch _ _ => isFalse (by simp)
  | branch _ _, leaf _ => isFalse (by simp)

/-- Decides whether two lists of trees are equal. -/
def decideEqList : (ss ts : List Tree) → Decidable (ss = ts)
  | [], [] => isTrue rfl
  | s :: ss, t :: ts =>
    match decideEq s t, decideEqList ss ts with
    | isTrue hs, isTrue hss => isTrue (by rw [hs, hss])
    | isFalse hs, _ => isFalse fun h => hs (by injection h)
    | _, isFalse hss => isFalse fun h => hss (by injection h)
  | [], _ :: _ => isFalse (by simp)
  | _ :: _, [] => isFalse (by simp)

end

instance : DecidableEq Tree := decideEq

/-! ### Parts -/

/-- The tree that asks for nothing, with which a policy starts. -/
def empty : Tree :=
  branch .and []

/-- Whether a tree is a single condition. -/
def isLeaf : Tree → Bool
  | leaf _ => true
  | branch _ _ => false

/-- The condition of a leaf. -/
def condition? : Tree → Option Condition
  | leaf c => some c
  | branch _ _ => none

/-- The connective of a branch. -/
def connective? : Tree → Option Connective
  | leaf _ => none
  | branch o _ => some o

/-- The children of a branch. -/
def children? : Tree → Option (List Tree)
  | leaf _ => none
  | branch _ cs => some cs

mutual

/-- The conditions of a tree, depth first and left to right. -/
def conditions : Tree → List Condition
  | leaf c => [c]
  | branch _ cs => conditionsList cs

/-- The conditions of some trees, in order. -/
def conditionsList : List Tree → List Condition
  | [] => []
  | t :: ts => conditions t ++ conditionsList ts

end

mutual

/-- The number of nodes of a tree, leaves and branches alike. -/
def size : Tree → Nat
  | leaf _ => 1
  | branch _ cs => 1 + sizeList cs

/-- The number of nodes of some trees. -/
def sizeList : List Tree → Nat
  | [] => 0
  | t :: ts => size t + sizeList ts

end

theorem conditionsList_eq_flatMap (ts : List Tree) :
    conditionsList ts = ts.flatMap conditions := by
  induction ts with
  | nil => rfl
  | cons t ts ih => simp [conditionsList, ih]

@[simp] theorem conditions_branch (o : Connective) (cs : List Tree) :
    conditions (branch o cs) = cs.flatMap conditions := by
  rw [conditions, conditionsList_eq_flatMap]

@[simp] theorem conditions_leaf (c : Condition) : conditions (leaf c) = [c] := by
  rw [conditions]

/-- The conditions of a child are conditions of the branch. -/
theorem conditions_subset_branch {t : Tree} {o : Connective} {cs : List Tree} (ht : t ∈ cs) :
    t.conditions ⊆ (branch o cs).conditions := by
  rw [conditions_branch]
  exact fun _ hc => List.mem_flatMap_of_mem ht hc

/-! ### Summary

One line for a tree. Children stand side by side with the connective between
them, in parentheses when they have two children or more themselves. -/

/-- Whether a tree needs parentheses inside another. -/
def isGroup : Tree → Bool
  | branch _ (_ :: _ :: _) => true
  | _ => false

mutual

/-- The one-line summary of a tree. -/
def summary : Tree → String
  | leaf c => toString c
  | branch .or [] => "OR()"
  | branch .and [] => "any request"
  | branch o (t :: ts) => s!" {o} ".intercalate (summaryParts (t :: ts))

/-- The summaries of some children, in parentheses where needed. -/
def summaryParts : List Tree → List String
  | [] => []
  | t :: ts => (if isGroup t then s!"({summary t})" else summary t) :: summaryParts ts

end

instance : ToString Tree := ⟨summary⟩

end Tree

end ZeroTrust
