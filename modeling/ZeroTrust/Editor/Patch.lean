/-
  `Editor.Patch` — changing a condition.

  A patch may name a new kind, a new operator and a new value. A change of kind
  starts the condition afresh, with the first operator of the kind and no value. A
  change of operator within the kind clears the value, and one to an operator of
  another kind does nothing. Only when neither changes is the value taken over.
-/
import ZeroTrust.Condition.Basic
import ZeroTrust.Log.Event

namespace ZeroTrust

/-- A change to a condition. -/
structure Patch where
  kind : Option Kind
  op : Option Op
  value : Option String
  deriving DecidableEq, Repr

namespace Patch

/-- What a patch does to a condition. -/
inductive Step where
  /-- The condition starts afresh in another kind. -/
  | restart (kind : Kind)
  /-- The operator changes within the kind. -/
  | switch (op : Op)
  /-- The operator belongs to another kind, and nothing changes. -/
  | refuse (op : Op)
  /-- The value changes. -/
  | assign (value : String)
  /-- Nothing changes. -/
  | keep
  deriving DecidableEq, Repr

/-- What the patch does once the kind stays. -/
def stepWithinKind (patch : Patch) (c : Condition) : Step :=
  match patch.op.filter (· != c.op) with
  | some op => if c.kind.allows op then .switch op else .refuse op
  | none =>
    match patch.value with
    | some value => .assign value
    | none => .keep

/-- What a patch does to a condition. -/
def step (patch : Patch) (c : Condition) : Step :=
  match patch.kind.filter (· != c.kind) with
  | some kind => .restart kind
  | none => stepWithinKind patch c

/-- The condition after a patch. -/
def apply (patch : Patch) (c : Condition) : Condition :=
  match patch.step c with
  | .restart kind => .default kind
  | .switch op => .ofOp op ""
  | .refuse _ => c
  | .assign value => { c with value := value }
  | .keep => c

/-- What is reported when a patch is applied. -/
def events (patch : Patch) (c : Condition) : List Event :=
  match patch.step c with
  | .refuse op =>
    [⟨.debug, .editor, "ignoring operator outside the condition type's vocabulary",
      [("condition_type", .text c.kind.name), ("op", .text op.name)]⟩]
  | _ => []

end Patch

end ZeroTrust
