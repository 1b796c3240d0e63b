/-
  `Decision.Document` — decisions as JSON documents.

  The outcome of a trace entry is spread over the entry itself: a word under
  `outcome`, and a `reason` where there is one. An entry is an object, never an
  array. Members that are no fields of the entry are set aside until the outcome
  is known, and because of that they are held to more than members that are passed
  over: they may not nest too deeply, their strings need a text, and their numbers
  have to fit a binary64, computed in steps.
-/
import ZeroTrust.Decision.Basic
import ZeroTrust.Text.Binary64

namespace ZeroTrust

/-! ### Members set aside -/

namespace Json

mutual

/-- Whether every string of a document has a text and every number fits a binary64. -/
def isPlain : Json → Bool
  | int n => Text.fitsBinary64InSteps n 0
  | decimal mantissa exponent => Text.fitsBinary64InSteps mantissa exponent
  | str text => text.isSome
  | arr items => isPlainItems items
  | obj members => isPlainMembers members
  | null => true
  | bool _ => true

/-- Whether all items are plain. -/
def isPlainItems : List Json → Bool
  | [] => true
  | v :: vs => v.isPlain && isPlainItems vs

/-- Whether all members are plain. -/
def isPlainMembers : List (Option String × Json) → Bool
  | [] => true
  | (name, v) :: ms => name.isSome && v.isPlain && isPlainMembers ms

end

end Json

/-! ### Outcomes -/

namespace Outcome

/-- The words for the outcomes, in the order in which a number may name them. -/
def names : List String :=
  ["matched", "not_matched", "not_applicable", "indeterminate", "rejected"]

/-- The only value among members under a name. -/
def only (name : String) (members : Json.Reader.Fields) : Except Json.ReadError Json :=
  match members.filter fun m => m.1 == name with
  | [(_, v)] => .ok v
  | _ => .error .unreadable

/-- The outcome with a given word. -/
def ofName (members : Json.Reader.Fields) : String → Except Json.ReadError Outcome
  | "matched" => .ok matched
  | "not_matched" => .ok notMatched
  | "not_applicable" => .ok notApplicable
  | "indeterminate" => do return indeterminate (← Json.Reader.text 0 (← only "reason" members))
  | "rejected" => do return rejected (← Json.Reader.text 0 (← only "reason" members))
  | _ => .error .unreadable

/-- The outcome that some members of a trace entry give. -/
def ofMembers (members : Json.Reader.Fields) : Except Json.ReadError Outcome := do
  match ← only "outcome" members with
  | .str (some word) => ofName members word
  | .int (.ofNat n) => ofName members (names.getD n "")
  | _ => throw .unreadable

end Outcome

/-! ### Trace entries and decisions -/

namespace TraceEntry

/-- The names of the fields of a trace entry beside its outcome. -/
def fieldNames : List String := ["policy_id", "name", "priority"]

/-- The document of a trace entry. -/
def toJson (e : TraceEntry) : Json :=
  .object (
    [("policy_id", .text e.policyId),
      ("name", .text e.name),
      ("priority", .int e.priority.toInt),
      ("outcome", .text e.outcome.name)] ++
    memberOfOption "reason" (e.outcome.reason?.map .text))

/-- The members of an entry that are none of its fields. -/
def setAside (room : Nat) : List (Option String × Json) → Except Json.ReadError Json.Reader.Fields
  | [] => .ok []
  | (none, _) :: _ => .error .unreadable
  | (some name, v) :: rest => do
    let members ← setAside room rest
    if fieldNames.contains name then return members
    if v.depth ≤ room && v.isPlain then return (name, v) :: members
    throw .unreadable

/-- Reads a trace entry. -/
def reader : Json.Reader TraceEntry
  | room + 1, .obj members => do
    let fields ← Json.Reader.knownMembers fieldNames members
    let others ← setAside room members
    return {
      policyId := ← fields.required "policy_id" .text room
      name := ← fields.required "name" .text room
      priority := ← fields.required "priority" priorityReader room
      outcome := ← Outcome.ofMembers others }
  | _, _ => .error .unreadable

end TraceEntry

namespace Decision

/-- The document of a decision. -/
def toJson (d : Decision) : Json :=
  .object [
    ("verdict", .text d.verdict.name),
    ("policy_id", .ofOption .text d.policyId),
    ("policy_name", .ofOption .text d.policyName),
    ("reason", .text d.reason),
    ("trace", .ofList TraceEntry.toJson d.trace)]

/-- Reads a decision. -/
def reader : Json.Reader Decision := fun room v => do
  let (room, fields) ← Json.Reader.fields
    ["verdict", "policy_id", "policy_name", "reason", "trace"] room v
  return {
    verdict := ← fields.required "verdict" (.word Verdict.all Verdict.name) room
    policyId := ← fields.optional "policy_id" .text room
    policyName := ← fields.optional "policy_name" .text room
    reason := ← fields.required "reason" .text room
    trace := ← fields.required "trace" (.list TraceEntry.reader) room }

end Decision

end ZeroTrust
