/-
  `Engine.Basic` — deciding requests.

  An engine has settings, a way to look up applications and a way to tell the
  country of an address. It consults the policies of a snapshot in their order. An
  access policy that is for another gateway or another destination does not apply.
  A sign-in policy that asks about facts foreign to its stage is rejected without
  evaluation. All others are evaluated, and what cannot be evaluated is
  indeterminate.
-/
import ZeroTrust.Engine.Resolution
import ZeroTrust.Engine.Target
import ZeroTrust.Evaluation.Truth
import ZeroTrust.Store.Snapshot

namespace ZeroTrust

/-- What decides requests. -/
structure Engine where
  settings : Settings
  /-- The application with an id. -/
  resolve : String → Option Application
  /-- The country of an address, as a two-letter code. -/
  locate : Net.Address → Option String

/-- What became of a policy whose tree has a value. -/
def Truth.outcome : Truth → Outcome
  | yes => .matched
  | no => .notMatched
  | unknown fault => .indeterminate fault.message

/-- The verdict of an effect. -/
def Effect.verdict : Effect → Verdict
  | allow => .allow
  | deny => .deny

/-- What a sign-in policy answers when it applies. -/
def SignInPolicy.verdict (p : SignInPolicy) : Verdict :=
  if p.block then .deny else .allow

namespace Engine

/-! ### Countries -/

/-- The country that a request names, in capital letters, unless it is blank. -/
def namedCountry (r : Request) : Option String :=
  ((r.country.map Text.trim).filter fun s => s != "").map Text.upper

/-- The country of the source address. -/
def locatedCountry (e : Engine) (r : Request) : Option String :=
  r.sourceIp.bind e.locate

/-- The country of a request: the one it names, else that of its source address. -/
def country (e : Engine) (r : Request) : Option String :=
  match namedCountry r with
  | some code => some code
  | none => (e.locatedCountry r).map Text.upper

/-- The facts of a request. -/
def facts (e : Engine) (r : Request) : Facts :=
  ⟨r, e.country r, e.settings.vacuousOr⟩

/-! ### Outcomes -/

/-- What becomes of an access policy. -/
def accessOutcome (e : Engine) (facts : Facts) (p : AccessPolicy) : Outcome :=
  if !p.deployedTo e.settings.gateway then .notApplicable
  else
    -- The tree counts only where the destination is the one that is asked for.
    match p.destination.aim e.resolve facts.request with
    | .no => .notApplicable
    | .unknown fault => .indeterminate fault.message
    | .yes => (p.root.evaluate facts).outcome

/-- Why a sign-in policy is rejected that asks about a kind of facts. -/
def rejection (kind : Kind) (stage : Stage) : String :=
  s!"condition type '{kind}' is not allowed in a {stage} policy"

/-- What becomes of a sign-in policy. -/
def signInOutcome (facts : Facts) (p : SignInPolicy) : Outcome :=
  match p.root.conditions.find? fun c => !p.stage.allows c.kind with
  | some foreign => .rejected (rejection foreign.kind p.stage)
  | none => (p.root.evaluate facts).outcome

/-! ### Decisions -/

/-- The visit to an access policy. -/
def visitAccess (e : Engine) (facts : Facts) (p : AccessPolicy) : Visit :=
  ⟨p.id, p.name, p.priority, p.effect.verdict, e.accessOutcome facts p⟩

/-- The visit to a sign-in policy. -/
def visitSignIn (facts : Facts) (p : SignInPolicy) : Visit :=
  ⟨p.id, p.name, p.priority, p.verdict, signInOutcome facts p⟩

/-- The visits for an access request, in order. -/
def accessVisits (e : Engine) (s : Snapshot) (r : Request) : List Visit :=
  s.access.map (e.visitAccess (e.facts r))

/-- The visits for a sign-in attempt, in order: only policies of its stage are consulted. -/
def signInVisits (e : Engine) (s : Snapshot) (stage : Stage) (r : Request) : List Visit :=
  (s.signIn.filter fun p => p.stage == stage).map (visitSignIn (e.facts r))

/-- Decides an access request. -/
def decideAccess (e : Engine) (s : Snapshot) (r : Request) : Decision :=
  .ofVisits e.settings.resolution (Policy.family AccessPolicy) e.settings.accessDefault
    (e.accessVisits s r)

/-- Decides a sign-in attempt. -/
def decideSignIn (e : Engine) (s : Snapshot) (stage : Stage) (r : Request) : Decision :=
  .ofVisits e.settings.resolution (Policy.family SignInPolicy) e.settings.signInDefault
    (e.signInVisits s stage r)

end Engine

end ZeroTrust
