/-
  `Proofs.Engine.NormalForm` — decisions go by the normal form of a request.

  The same facts can be spelled in several ways: with blanks around them, in capitals
  or small letters, with dots after a server name, with an address of four octets
  inside a longer one, or with a blank in place of nothing. `Request.normalForm`
  keeps what all spellings of a fact have in common.

  Each place that reads a fact goes by it: the queries of conditions
  (`Query.holds_of_normalForm`), the country that a request names or that its source
  address tells (`Engine.country_eq`), and the aim of a destination (`Destination.aim_eq`).
  No tree and no policy reads a request elsewhere, so requests with one normal form
  get one decision, with one reason and one trace (`Engine.decisions_eq_of_normalForm_eq`).
-/
import ZeroTrust.CountryRanges
import ZeroTrust.Engine.Basic
import ZeroTrust.Proofs.Evaluation.Boolean
import ZeroTrust.Proofs.Text.Trimming

namespace ZeroTrust

/-- What the spellings of a request have in common. -/
structure NormalForm where
  /-- The groups of the user; without a user there are none. -/
  groups : NameSet
  /-- The mail address, trimmed and in small letters; empty without a user. -/
  email : String
  os : Option OperatingSystem
  managed : Bool
  /-- The source address, if it is or maps one of four octets. -/
  source : Option Net.Ipv4
  /-- The country, trimmed and in small letters, unless nothing is left of it. -/
  country : Option String
  /-- The destination address, if it is or maps one of four octets. -/
  destination : Option Net.Ipv4
  /-- The server name, trimmed, without dots at its end, in small letters. -/
  server : Option (List Char)
  deriving DecidableEq, Repr

/-- The normal form of a request. -/
def Request.normalForm (r : Request) : NormalForm where
  groups := (r.user.map Identity.groups).getD .empty
  email := (r.user.map fun u => Text.lower (Text.trim u.email)).getD ""
  os := r.device.bind Device.os
  managed := (r.device.map Device.managed).getD false
  source := r.sourceIpv4
  country := ((r.country.map Text.trim).filter fun s => s != "").map Text.lower
  destination := r.destinationIpv4
  server := r.destinationSni.map Domain.normalized

/-! ### What queries read -/

namespace Request

variable (r : Request)

theorem any_user_inGroup (group : String) :
    (r.user.any fun u => u.groups.contains group) = r.normalForm.groups.contains group := by
  unfold normalForm
  cases r.user with
  | none => rfl
  | some u => rfl

/-- No user is taken for one with a blank address, which is not the one that is asked for. -/
theorem any_user_hasEmail {email : String} (h : email ≠ "") :
    (r.user.any fun u => Text.sameIgnoringCase (Text.trim u.email) email) =
      (r.normalForm.email == Text.lower email) := by
  unfold normalForm
  cases r.user with
  | none =>
    have hlower : "" ≠ Text.lower email := fun hempty =>
      h ((Text.lower_eq_empty_iff email).1 hempty.symm)
    exact (beq_eq_false_iff_ne.2 hlower).symm
  | some u => rfl

/-- A blank address lies in no domain. -/
theorem any_user_inDomain (domain : String) :
    (r.user.any fun u => Domain.holdsEmail domain u.email) =
      (Domain.afterLast? '@' r.normalForm.email.toList).any fun d =>
        d == domain.toList || ('.' :: domain.toList).isSuffixOf d := by
  unfold normalForm
  cases r.user with
  | none => simp [Domain.afterLast?]
  | some u =>
    rw [Option.any_some, Domain.holdsEmail, Domain.ofEmail?]
    rfl

theorem any_device_runs (os : OperatingSystem) :
    (r.device.any fun d => d.os == some os) = (r.normalForm.os == some os) := by
  unfold normalForm
  cases r.device with
  | none => rfl
  | some d => rfl

theorem any_device_managed : r.device.any Device.managed = r.normalForm.managed := by
  unfold normalForm
  cases r.device with
  | none => rfl
  | some d => rfl

theorem any_destinationSni (pattern : String) :
    r.destinationSni.any (Domain.matchesServer pattern) =
      r.normalForm.server.any (Domain.covers (Domain.normalized pattern)) := by
  unfold normalForm
  cases r.destinationSni with
  | none => rfl
  | some name => rfl

end Request

theorem Condition.ne_empty_of_query_eq_hasEmail {c : Condition} {email : String}
    (h : c.query = .ok (.hasEmail email)) : email ≠ "" := by
  grind [Condition.query]

/-- **A query goes by the normal form of the request**, and by the country that was found. -/
theorem Query.holds_of_normalForm {facts facts' : Facts}
    (hnormal : facts.request.normalForm = facts'.request.normalForm)
    (hcountry : facts.country = facts'.country) {c : Condition} {query : Query}
    (hquery : c.query = .ok query) : query.holds facts = query.holds facts' := by
  have hsource : facts.request.sourceIpv4 = facts'.request.sourceIpv4 :=
    congrArg NormalForm.source hnormal
  cases query with
  | inGroup group =>
    rw [holds, holds, Request.any_user_inGroup, hnormal, ← Request.any_user_inGroup]
  | hasEmail email =>
    -- A blank address would be that of a request without a user, but no condition asks for one.
    have hemail := Condition.ne_empty_of_query_eq_hasEmail hquery
    rw [holds, holds, Request.any_user_hasEmail _ hemail, hnormal,
      ← Request.any_user_hasEmail _ hemail]
  | inDomain domain =>
    rw [holds, holds, Request.any_user_inDomain, hnormal, ← Request.any_user_inDomain]
  | fromNetwork net => rw [holds, holds, hsource]
  | fromCountry code => rw [holds, holds, hcountry]
  | fromPrivateNetwork => rw [holds, holds, hsource]
  | runs os => rw [holds, holds, Request.any_device_runs, hnormal, ← Request.any_device_runs]
  | isManaged =>
    rw [holds, holds, Request.any_device_managed, hnormal, ← Request.any_device_managed]

theorem Tree.evaluate_of_normalForm {facts facts' : Facts}
    (hnormal : facts.request.normalForm = facts'.request.normalForm)
    (hcountry : facts.country = facts'.country) (hvacuous : facts.vacuousOr = facts'.vacuousOr)
    (t : Tree) : t.evaluate facts = t.evaluate facts' := by
  refine evaluate_congr hvacuous t fun c _ => ?_
  rw [Condition.evaluate, Condition.evaluate]
  cases hquery : c.query with
  | ok query =>
    show Truth.ofBool (query.holds facts) = Truth.ofBool (query.holds facts')
    rw [Query.holds_of_normalForm hnormal hcountry hquery]
  | error fault => rfl

/-! ### Destinations -/

theorem Destination.aim_eq (resolve : String → Option Application) {r r' : Request}
    (hnormal : r.normalForm = r'.normalForm) (d : Destination) :
    d.aim resolve r = d.aim resolve r' := by
  have hdestination : r.destinationIpv4 = r'.destinationIpv4 :=
    congrArg NormalForm.destination hnormal
  cases d with
  | any => rfl
  | cidr literal => rw [aim, aim, hdestination]
  | app id => rw [aim, aim, hdestination]
  | sni pattern =>
    rw [aim, aim, Request.any_destinationSni, hnormal, ← Request.any_destinationSni]
  | missing kind => rfl

namespace Engine

/-! ### Countries -/

/-- Whether an engine tells the country of an address not at all, or from a table of ranges. -/
def LocatesByRanges (e : Engine) : Prop :=
  (e.locate = fun _ => none) ∨ ∃ ranges : CountryRanges, e.locate = ranges.locate

/-- Tables of ranges hold addresses of four octets. -/
theorem exists_locatedCountry_eq {e : Engine} (h : e.LocatesByRanges) :
    ∃ countryOf : Net.Ipv4 → Option String,
      ∀ r, e.locatedCountry r = r.sourceIpv4.bind countryOf := by
  rcases h with hnone | ⟨ranges, hranges⟩
  · refine ⟨fun _ => none, fun r => ?_⟩
    rw [locatedCountry, hnone, Option.bind_fun_none, Option.bind_fun_none]
  · refine ⟨ranges.countryOf?, fun r => ?_⟩
    rw [locatedCountry, hranges, Request.sourceIpv4, Option.bind_assoc]
    rfl

/-- The country that is named comes in capitals, so it does not matter how it was written. -/
theorem namedCountry_eq_map_upper (r : Request) :
    namedCountry r = r.normalForm.country.map Text.upper := by
  have hupper : Text.upper ∘ Text.lower = Text.upper := funext Text.upper_lower
  rw [namedCountry, Request.normalForm, Option.map_map, hupper]

theorem country_eq {e : Engine} (h : e.LocatesByRanges) {r r' : Request}
    (hnormal : r.normalForm = r'.normalForm) : e.country r = e.country r' := by
  obtain ⟨countryOf, hlocated⟩ := exists_locatedCountry_eq h
  have hsource : r.sourceIpv4 = r'.sourceIpv4 := congrArg NormalForm.source hnormal
  rw [country, country, namedCountry_eq_map_upper, namedCountry_eq_map_upper, hnormal, hlocated,
    hlocated, hsource]

/-! ### Decisions -/

section Visits

variable {e : Engine} {facts facts' : Facts}

theorem visitAccess_eq (hnormal : facts.request.normalForm = facts'.request.normalForm)
    (hcountry : facts.country = facts'.country) (hvacuous : facts.vacuousOr = facts'.vacuousOr)
    (p : AccessPolicy) : e.visitAccess facts p = e.visitAccess facts' p := by
  unfold visitAccess accessOutcome
  rw [Destination.aim_eq e.resolve hnormal, p.root.evaluate_of_normalForm hnormal hcountry hvacuous]

theorem visitSignIn_eq (hnormal : facts.request.normalForm = facts'.request.normalForm)
    (hcountry : facts.country = facts'.country) (hvacuous : facts.vacuousOr = facts'.vacuousOr)
    (p : SignInPolicy) : visitSignIn facts p = visitSignIn facts' p := by
  unfold visitSignIn signInOutcome
  rw [p.root.evaluate_of_normalForm hnormal hcountry hvacuous]

end Visits

/-- **Requests with one normal form get one decision**: the same verdict by the same policy, for the
same reason and with the same trace, for access and at every stage of signing in. -/
theorem decisions_eq_of_normalForm_eq (e : Engine) (s : Snapshot) (r r' : Request)
    (hlocate : e.LocatesByRanges) (hnormal : r.normalForm = r'.normalForm) :
    e.decideAccess s r = e.decideAccess s r' ∧
      ∀ stage, e.decideSignIn s stage r = e.decideSignIn s stage r' := by
  have hcountry : (e.facts r).country = (e.facts r').country := country_eq hlocate hnormal
  -- A decision is made of visits, and these read nothing but the facts.
  have haccess : e.visitAccess (e.facts r) = e.visitAccess (e.facts r') :=
    funext fun p => visitAccess_eq hnormal hcountry rfl p
  have hsignIn : visitSignIn (e.facts r) = visitSignIn (e.facts r') :=
    funext fun p => visitSignIn_eq hnormal hcountry rfl p
  constructor
  · rw [decideAccess, decideAccess, accessVisits, accessVisits, haccess]
  · intro stage
    rw [decideSignIn, decideSignIn, signInVisits, signInVisits, hsignIn]

/-! ### A request in two spellings -/

/-- An engine that takes private addresses to be in Germany. -/
def locating : Engine where
  settings := .default
  resolve _ := none
  locate := CountryRanges.locate ⟨[⟨.ofOctets 10 0 0 0, .ofOctets 10 255 255 255, "DE"⟩]⟩

/-- Policies that admit a company to its servers from Germany, and let one member sign in. -/
def homePolicies : Snapshot where
  access := [
    { AccessPolicy.new "wiki" 10 with
      destinationKind := .sni
      destinationSni := some "*.Example.com"
      root := .branch .and
        [.leaf (.ofOp .emailSuffix "@example.com"), .leaf (.ofOp .country "DE")] }]
  signIn := [
    { SignInPolicy.new "home" 10 .postAuth with root := .leaf (.ofOp .is "Ann@example.com") }]

def plainRequest : Request where
  user := some ⟨"ann@example.com", .empty⟩
  device := none
  sourceIp := some (.v4 (.ofOctets 10 1 2 3))
  country := none
  destinationIp := none
  destinationSni := some "wiki.example.com"

/-- The same request with capitals, blanks, a dot and longer addresses. -/
def respelledRequest : Request where
  user := some ⟨" Ann@Example.COM", .empty⟩
  device := some ⟨none, false⟩
  sourceIp := some (.v6 ⟨#v[0, 0, 0, 0, 0, 0xFFFF, 0x0A01, 0x0203]⟩)
  country := some " "
  destinationIp := some (.v6 ⟨#v[0x2001, 0x0DB8, 0, 0, 0, 0, 0, 1]⟩)
  destinationSni := some "Wiki.EXAMPLE.com. "

theorem decisions_eq_of_normalForm_eq_respelled :
    plainRequest ≠ respelledRequest ∧
      (locating.decideAccess homePolicies plainRequest).verdict = .allow ∧
      locating.decideAccess homePolicies plainRequest =
        locating.decideAccess homePolicies respelledRequest ∧
      ∀ stage, locating.decideSignIn homePolicies stage plainRequest =
        locating.decideSignIn homePolicies stage respelledRequest :=
  ⟨by decide +kernel, by decide +kernel,
    decisions_eq_of_normalForm_eq locating homePolicies plainRequest respelledRequest
      (.inr ⟨_, rfl⟩) (by decide +kernel)⟩

end Engine

end ZeroTrust
