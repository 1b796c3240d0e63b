/-
  `Validation.Tree` — what is wrong with conditions and trees.

  A condition whose operator does not belong to its kind has that failure alone,
  because the grammar of its value follows from a sound pair. Otherwise its field
  and its value are checked. A tree has the failures of its leaves, depth first,
  each with the path that leads to its leaf; in a policy with a stage, a leaf of a
  kind foreign to the stage has one more, before its others.
-/
import ZeroTrust.Condition.Grammar
import ZeroTrust.Policy.Stage
import ZeroTrust.Tree.Basic
import ZeroTrust.Validation.Report

namespace ZeroTrust

/-- What is wrong with a condition found at a path. -/
def Condition.failures (c : Condition) (path : String) : List Failure :=
  if !c.kind.allows c.op then
    [⟨.structural, s!"{path}.op",
      s!"operator '{c.op}' is not allowed for condition type '{c.kind}'"⟩]
  else
    (if c.field = c.op.field then []
      else [⟨.structural, s!"{path}.field",
        s!"field '{c.field}' does not match operator '{c.op}' (expected '{c.op.field}')"⟩]) ++
    (c.op.faultOf? c.value).toList.map fun fault =>
      ⟨.valueGrammar, s!"{path}.value", fault.message⟩

namespace Tree

/-- What is wrong with the kind of a condition in a policy with a stage. -/
def stageFailures (stage : Option Stage) (c : Condition) (path : String) : List Failure :=
  match stage with
  | none => []
  | some stage =>
    if stage.allows c.kind then []
    else [⟨.targeting, s!"{path}.type",
      s!"{c.kind} conditions are not available in {stage} policies"⟩]

/-- What is wrong with a leaf found at a path. -/
def leafFailures (stage : Option Stage) (c : Condition) (path : String) : List Failure :=
  stageFailures stage c s!"{path}.condition" ++ c.failures s!"{path}.condition"

/-- The path of a child. -/
def childPath (path : String) (index : Nat) : String :=
  s!"{path}.children[{index}]"

mutual

/-- What is wrong with a tree found at a path. -/
def failures (stage : Option Stage) (path : String) : Tree → List Failure
  | leaf c => leafFailures stage c path
  | branch _ cs => failuresFrom stage path 0 cs

/-- What is wrong with the children of a branch from an index on. -/
def failuresFrom (stage : Option Stage) (path : String) (index : Nat) : List Tree → List Failure
  | [] => []
  | t :: ts => failures stage (childPath path index) t ++ failuresFrom stage path (index + 1) ts

end

end Tree

end ZeroTrust
