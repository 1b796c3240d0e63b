/-
  `Validation.Report` — everything that is wrong with one subject.

  A failure says which kind of rule is broken, at which place of the document, and
  how. A report lists all failures, in the order in which they were found; a
  subject passes when there is none.
-/
import ZeroTrust.Json.Reader

namespace ZeroTrust

/-- The kind of rule that a failure breaks. -/
inductive FailureKind where
  /-- The shape of a condition or of an envelope is wrong. -/
  | structural
  /-- A value does not follow the grammar of its operator or field. -/
  | valueGrammar
  /-- A destination or a stage does not go with the rest. -/
  | targeting
  deriving DecidableEq, Repr

namespace FailureKind

/-- Every kind of failure. -/
def all : List FailureKind := [structural, valueGrammar, targeting]

/-- The word for a kind of failure in documents. -/
def name : FailureKind → String
  | structural => "structural"
  | valueGrammar => "value_grammar"
  | targeting => "targeting"

/-- The word for a kind of failure in summaries. -/
def tag : FailureKind → String
  | structural => "structural"
  | valueGrammar => "value"
  | targeting => "targeting"

end FailureKind

/-- One broken rule. -/
structure Failure where
  kind : FailureKind
  /-- The place in the document, as in `root_node.children[1].condition.value`. -/
  path : String
  message : String
  deriving DecidableEq, Repr

namespace Failure

instance : ToString Failure where
  toString f := s!"[{f.kind.tag}] {f.path}: {f.message}"

/-- The document of a failure. -/
def toJson (f : Failure) : Json :=
  .object [("kind", .text f.kind.name), ("path", .text f.path), ("message", .text f.message)]

/-- Reads a failure. -/
def reader : Json.Reader Failure := fun room v => do
  let (room, fields) ← Json.Reader.fields ["kind", "path", "message"] room v
  return {
    kind := ← fields.required "kind" (.word FailureKind.all FailureKind.name) room
    path := ← fields.required "path" .text room
    message := ← fields.required "message" .text room }

end Failure

/-- The failures of one subject. -/
structure Report where
  failures : List Failure
  deriving DecidableEq, Repr

namespace Report

/-- Whether nothing is wrong. -/
def passed (r : Report) : Bool :=
  r.failures.isEmpty

/-- Whether a rule of some kind is broken. -/
def hasKind (r : Report) (kind : FailureKind) : Bool :=
  r.failures.any fun f => f.kind == kind

/-- All failures on one line. -/
def summary (r : Report) : String :=
  "; ".intercalate (r.failures.map toString)

/-- The document of a report. -/
def toJson (r : Report) : Json :=
  .object [("failures", .ofList Failure.toJson r.failures)]

/-- Reads a report. -/
def reader : Json.Reader Report := fun room v => do
  let (room, fields) ← Json.Reader.fields ["failures"] room v
  return ⟨← fields.required "failures" (.list Failure.reader) room⟩

theorem passed_iff (r : Report) : r.passed = true ↔ r.failures = [] := by
  simp [passed]

end Report

end ZeroTrust
