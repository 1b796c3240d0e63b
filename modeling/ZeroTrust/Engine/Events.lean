/-
  `Engine.Events` — what is reported when a request is decided.

  First comes the country, where the source address told it. Then comes each policy
  up to the one at which the decision fell: a warning where it was rejected or
  could not be evaluated, and its outcome. Last comes the default, where it applied.
-/
import ZeroTrust.Engine.Basic
import ZeroTrust.Log.Event

namespace ZeroTrust

/-- A warning about a policy. -/
def Visit.warning (v : Visit) (message reason : String) : Event :=
  ⟨.warn, .engine, message,
    [("policy_id", .text v.id), ("policy", .text v.name), ("reason", .text reason)]⟩

/-- What a visit reports. -/
def Visit.events (family : String) (v : Visit) : List Event :=
  let warnings :=
    match v.outcome, v.verdict with
    | .rejected reason, _ => [v.warning "rejecting sign-in policy that violates its stage" reason]
    | .indeterminate reason, .deny =>
      [v.warning "policy could not be evaluated; failing closed" reason]
    | .indeterminate reason, .allow =>
      [v.warning "allow policy could not be evaluated; skipping" reason]
    | _, _ => []
  warnings ++
    [⟨.debug, .engine, "policy visited",
      [("family", .word family), ("policy_id", .text v.id), ("priority", .int v.priority.toInt),
        ("outcome", .text v.outcome.label)]⟩]

/-- What a decision reports: the visits of its trace, and the default where it applied. -/
def Decision.events (family : String) (visits : List Visit) (d : Decision) : List Event :=
  (visits.take d.trace.length).flatMap (Visit.events family) ++
    if d.isDefault then
      [⟨.debug, .engine, "no policy applied; using default",
        [("family", .word family), ("verdict", .text d.verdict.label)]⟩]
    else []

namespace Engine

/-- What finding the country of a request reports. -/
def countryEvents (e : Engine) (r : Request) : List Event :=
  match namedCountry r, r.sourceIp, e.locatedCountry r with
  | none, some a, some code =>
    [⟨.debug, .engine, "country resolved by GeoIP",
      [("source_ip", .text (toString a)), ("country", .text code)]⟩]
  | _, _, _ => []

/-- What deciding an access request reports. -/
def accessEvents (e : Engine) (s : Snapshot) (r : Request) : List Event :=
  e.countryEvents r ++
    (e.decideAccess s r).events (Policy.family AccessPolicy) (e.accessVisits s r)

/-- What deciding a sign-in attempt reports. -/
def signInEvents (e : Engine) (s : Snapshot) (stage : Stage) (r : Request) : List Event :=
  e.countryEvents r ++
    (e.decideSignIn s stage r).events (Policy.family SignInPolicy) (e.signInVisits s stage r)

end Engine

end ZeroTrust
