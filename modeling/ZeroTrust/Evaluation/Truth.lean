/-
  `Evaluation.Truth` — evaluating a tree to one of three values.

  A condition with a query is true or false of some facts; one with a fault is
  unknown. Conjunction and disjunction are those of Kleene: an unknown child
  decides a branch only when no other child does. A value that is unknown carries
  the fault of the first child, from the left, that made it so.
-/
import ZeroTrust.Evaluation.Query

namespace ZeroTrust

/-- True, false, or unknown for a reason. -/
inductive Truth where
  | yes
  | no
  | unknown (fault : Fault)
  deriving DecidableEq, Repr

namespace Truth

/-- The value of something that is known. -/
def ofBool (b : Bool) : Truth :=
  if b then yes else no

/-- False when either is, else unknown when either is, the first first. -/
def and : Truth → Truth → Truth
  | no, _ => no
  | yes, v => v
  | unknown _, no => no
  | unknown fault, _ => unknown fault

/-- True when either is, else unknown when either is, the first first. -/
def or : Truth → Truth → Truth
  | yes, _ => yes
  | no, v => v
  | unknown _, yes => yes
  | unknown fault, _ => unknown fault

@[simp] theorem yes_and (v : Truth) : and yes v = v := rfl

@[simp] theorem no_and (v : Truth) : and no v = no := rfl

@[simp] theorem no_or (v : Truth) : or no v = v := rfl

@[simp] theorem yes_or (v : Truth) : or yes v = yes := rfl

theorem and_assoc (u v w : Truth) : (u.and v).and w = u.and (v.and w) := by
  cases u <;> cases v <;> cases w <;> rfl

theorem or_assoc (u v w : Truth) : (u.or v).or w = u.or (v.or w) := by
  cases u <;> cases v <;> cases w <;> rfl

theorem and_eq_yes_iff (v w : Truth) : v.and w = yes ↔ v = yes ∧ w = yes := by
  cases v <;> cases w <;> simp [and]

theorem and_eq_no_iff (v w : Truth) : v.and w = no ↔ v = no ∨ w = no := by
  cases v <;> cases w <;> simp [and]

theorem or_eq_yes_iff (v w : Truth) : v.or w = yes ↔ v = yes ∨ w = yes := by
  cases v <;> cases w <;> simp [or]

theorem or_eq_no_iff (v w : Truth) : v.or w = no ↔ v = no ∧ w = no := by
  cases v <;> cases w <;> simp [or]

end Truth

/-- The value of a condition. -/
def Condition.evaluate (facts : Facts) (c : Condition) : Truth :=
  match c.query with
  | .ok query => .ofBool (query.holds facts)
  | .error fault => .unknown fault

namespace Tree

mutual

/-- The value of a tree. -/
def evaluate (facts : Facts) : Tree → Truth
  | leaf c => c.evaluate facts
  | branch .and cs => evaluateAll facts cs
  | branch .or [] => .ofBool facts.vacuousOr
  | branch .or (c :: cs) => evaluateAny facts (c :: cs)

/-- The conjunction of the values of some trees. -/
def evaluateAll (facts : Facts) : List Tree → Truth
  | [] => .yes
  | t :: ts => (evaluate facts t).and (evaluateAll facts ts)

/-- The disjunction of the values of some trees. -/
def evaluateAny (facts : Facts) : List Tree → Truth
  | [] => .no
  | t :: ts => (evaluate facts t).or (evaluateAny facts ts)

end

theorem evaluateAll_eq_foldr (facts : Facts) (ts : List Tree) :
    evaluateAll facts ts = (ts.map (evaluate facts)).foldr Truth.and .yes := by
  induction ts with
  | nil => rfl
  | cons t ts ih => simp [evaluateAll, ih]

theorem evaluateAny_eq_foldr (facts : Facts) (ts : List Tree) :
    evaluateAny facts ts = (ts.map (evaluate facts)).foldr Truth.or .no := by
  induction ts with
  | nil => rfl
  | cons t ts ih => simp [evaluateAny, ih]

end Tree

end ZeroTrust
