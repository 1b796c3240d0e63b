/-
  `Condition.Basic` — one question about a request.

  A condition has a kind, an operator, a value and a field. Kind and field follow
  from the operator, and `ofOp` builds a condition in which they do. A document
  may name others, and then they are kept: validation reports them.
-/
import ZeroTrust.Condition.Vocabulary
import ZeroTrust.Json.Reader

namespace ZeroTrust

/-- One question about a request. -/
structure Condition where
  kind : Kind
  field : Field
  op : Op
  value : String
  deriving DecidableEq, Repr

namespace Condition

/-- The condition with an operator and a value; kind and field follow from the operator. -/
def ofOp (op : Op) (value : String) : Condition :=
  ⟨op.kind, op.field, op, value⟩

/-- The condition that an editor inserts for a kind: its first operator and no value. -/
def default (kind : Kind) : Condition :=
  ofOp kind.defaultOp ""

instance : ToString Condition where
  toString c :=
    if c.op.takesValue then s!"{c.kind}: {c.op} {c.value}" else s!"{c.kind}: {c.op}"

/-! ### Documents -/

/-- The document of a condition. -/
def toJson (c : Condition) : Json :=
  .object [
    ("type", .text c.kind.name),
    ("field", .text c.field.name),
    ("op", .text c.op.name),
    ("value", .text c.value)]

/-- Reads a condition. A missing field is the one that the operator reads, and a missing value is
empty. -/
def reader : Json.Reader Condition := fun room v => do
  let (room, fields) ← Json.Reader.fields ["type", "field", "op", "value"] room v
  let kind ← fields.required "type" (.word Kind.all Kind.name) room
  let field ← fields.optional "field" (.word Field.all Field.name) room
  let op ← fields.required "op" (.word Op.all Op.name) room
  let value ← fields.withDefault "value" "" .text room
  return ⟨kind, field.getD op.field, op, value⟩

end Condition

end ZeroTrust
