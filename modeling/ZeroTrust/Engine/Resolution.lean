/-
  `Engine.Resolution` — from the outcomes of the policies to a decision.

  Each policy that is consulted makes a visit: who it is, what it would answer, and
  what became of it. A policy applies when it matched, and a denying one also when
  it could not be evaluated. The first visit that applies decides; where denials
  override, the first that applies and denies, and without one the first that
  applies. When none applies the default of the family does. The trace holds the
  visits up to the one at which the decision fell.
-/
import ZeroTrust.Engine.Settings

namespace ZeroTrust

/-- A policy that was consulted and what became of it. -/
structure Visit where
  id : String
  name : String
  priority : Int32
  /-- What the policy answers when it applies. -/
  verdict : Verdict
  outcome : Outcome
  deriving DecidableEq, Repr

namespace Visit

/-- The line of a trace for a visit. -/
def entry (v : Visit) : TraceEntry :=
  ⟨v.id, v.name, v.priority, v.outcome⟩

/-- Why the policy applies, if it does. -/
def applies? (family : String) (v : Visit) : Option String :=
  match v.outcome, v.verdict with
  | .matched, _ => some s!"matched {family} policy '{v.name}' (priority {v.priority.toInt})"
  | .indeterminate reason, .deny =>
    some s!"{family} policy '{v.name}' could not be evaluated; failing closed: {reason}"
  | _, _ => none

end Visit

namespace Decision

/-- The decision of a policy that applies, before any trace. -/
def byVisit (v : Visit) (reason : String) : Decision :=
  ⟨v.verdict, some v.id, some v.name, reason, []⟩

/-- The decision when no policy applies, before any trace. -/
def byDefault (family : String) (verdict : Verdict) : Decision :=
  ⟨verdict, none, none, s!"no {family} policy matched; default {verdict.name}", []⟩

/-- A decision that fell at or after a visit. -/
def after (d : Decision) (v : Visit) : Decision :=
  { d with trace := v.entry :: d.trace }

/-- The decision of the first visit that applies. -/
def ofFirst (family : String) (default : Verdict) : List Visit → Decision
  | [] => byDefault family default
  | v :: vs =>
    match v.applies? family with
    | some reason => (byVisit v reason).after v
    | none => (ofFirst family default vs).after v

/-- The decision of the first visit that applies and denies, and without one that of `allowed`, the
first visit so far that applies, or of the first one to come. -/
def ofDenials (family : String) (default : Verdict) (allowed : Option (Visit × String)) :
    List Visit → Decision
  | [] =>
    match allowed with
    | some (v, reason) => byVisit v reason
    | none => byDefault family default
  | v :: vs =>
    match v.applies? family with
    | some reason =>
      if v.verdict = .deny then (byVisit v reason).after v
      else (ofDenials family default (allowed <|> some (v, reason)) vs).after v
    | none => (ofDenials family default allowed vs).after v

/-- The decision of some visits in the order in which they were made. -/
def ofVisits (resolution : Resolution) (family : String) (default : Verdict)
    (visits : List Visit) : Decision :=
  match resolution with
  | .firstMatch => ofFirst family default visits
  | .denyOverrides => ofDenials family default none visits

@[simp] theorem verdict_after (d : Decision) (v : Visit) : (d.after v).verdict = d.verdict := rfl

@[simp] theorem policyId_after (d : Decision) (v : Visit) : (d.after v).policyId = d.policyId := rfl

@[simp] theorem trace_after (d : Decision) (v : Visit) :
    (d.after v).trace = v.entry :: d.trace := rfl

end Decision

end ZeroTrust
