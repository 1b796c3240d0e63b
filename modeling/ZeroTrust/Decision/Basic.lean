/-
  `Decision.Basic` — the answer to a request and how it came about.

  A decision names the policy that decided, unless the default did, and carries a
  trace: what became of each policy that was consulted, in order.
-/
import ZeroTrust.Condition.Basic
import ZeroTrust.Policy.Access
import ZeroTrust.Text.Quoted

namespace ZeroTrust

/-- The answer to a request. -/
inductive Verdict where
  | allow
  | deny
  deriving DecidableEq, Repr

namespace Verdict

/-- Both verdicts. -/
def all : List Verdict := [allow, deny]

/-- The word for a verdict. -/
def name : Verdict → String
  | allow => "allow"
  | deny => "deny"

/-- The name of a verdict in log entries. -/
def label : Verdict → String
  | allow => "Allow"
  | deny => "Deny"

end Verdict

/-- What became of a policy that was consulted. -/
inductive Outcome where
  /-- Its tree matched. -/
  | matched
  /-- Its tree did not match. -/
  | notMatched
  /-- It is for another gateway or another destination. -/
  | notApplicable
  /-- It could not be evaluated. -/
  | indeterminate (reason : String)
  /-- It asks what cannot be known at its stage, and was not evaluated. -/
  | rejected (reason : String)
  deriving DecidableEq, Repr

namespace Outcome

/-- The word for an outcome in documents. -/
def name : Outcome → String
  | matched => "matched"
  | notMatched => "not_matched"
  | notApplicable => "not_applicable"
  | indeterminate _ => "indeterminate"
  | rejected _ => "rejected"

/-- The reason that an outcome carries. -/
def reason? : Outcome → Option String
  | indeterminate reason => some reason
  | rejected reason => some reason
  | _ => none

/-- An outcome with its quoted reason, in log entries. -/
def label : Outcome → String
  | matched => "Matched"
  | notMatched => "NotMatched"
  | notApplicable => "NotApplicable"
  | indeterminate reason => "Indeterminate \x7b reason: " ++ Text.quoted reason ++ " \x7d"
  | rejected reason => "Rejected \x7b reason: " ++ Text.quoted reason ++ " \x7d"

end Outcome

/-- One line of a trace. -/
structure TraceEntry where
  policyId : String
  name : String
  priority : Int32
  outcome : Outcome
  deriving DecidableEq, Repr

/-- The answer to a request and how it came about. -/
structure Decision where
  verdict : Verdict
  /-- The id of the policy that decided; absent when the default did. -/
  policyId : Option String
  policyName : Option String
  reason : String
  trace : List TraceEntry
  deriving DecidableEq, Repr

/-- Whether no policy decided. -/
def Decision.isDefault (d : Decision) : Bool :=
  d.policyId.isNone

end ZeroTrust
