/-
  `Proofs.Gateway.Agreement` — compiled rules decide as the engine does.

  A gateway reads its rules from the first to the last and takes the first that
  matches; where none does, it denies (`firstMatch`, `verdict`). The rules of one
  policy match when the policy applies (`any_matches_compilePolicy`), they carry its
  id and its effect, and they come in the order in which policies are consulted. So
  the first rule that matches is one of the first policy that applies
  (`firstMatch_compileAll`).

  That is what an engine decides by that takes the first match and denies by
  default, for requests to an address of four octets and applications whose networks
  can be read (`firstMatch_compile`).
-/
import ZeroTrust.Proofs.Engine.Applying
import ZeroTrust.Proofs.Except
import ZeroTrust.Proofs.Gateway.Places
import ZeroTrust.Proofs.Gateway.Terms
import ZeroTrust.Proofs.Policy.Consultation

namespace ZeroTrust.Gateway

/-! ### Reading rules -/

/-- Whether a rule matches a request: its destination takes it in, and all its tags hold. -/
def Rule.matches (reads : Tag → Bool) (r : Request) (rule : Rule) : Bool :=
  reaches r rule.destinationTag rule.destination && rule.sources.all reads

/-- The first rule that matches a request. -/
def firstMatch (reads : Tag → Bool) (r : Request) (rules : List Rule) : Option Rule :=
  rules.find? (Rule.matches reads r)

/-- What a gateway answers: as the first rule says that matches, and no where none does. -/
def verdict (reads : Tag → Bool) (r : Request) (rules : List Rule) : Verdict :=
  ((firstMatch reads r rules).map fun rule => rule.action.verdict).getD .deny

/-- Whether an engine decides as rules do that are made with some options: by the first match, with
no for an answer where none applies, for the same gateway. -/
structure Options.Mirrors (o : Options) (settings : Settings) : Prop where
  resolution_eq : settings.resolution = .firstMatch
  accessDefault_eq : settings.accessDefault = .deny
  vacuousOr_eq : settings.vacuousOr = o.vacuousOr
  gateway_eq : settings.gateway = o.gateway

/-! ### The rules of one policy -/

section Policies

variable {e : Engine} {o : Options} {r : Request} {reads : Tag → Bool}

theorem any_matches_map_rule (p : AccessPolicy) (terms : List Term) (tag : DestinationTag)
    (value : String) :
    ((terms.map fun sources => rule p sources tag value).any (Rule.matches reads r)) =
      (reaches r tag value && anyTermHolds reads terms) := by
  induction terms with
  | nil => simp [anyTermHolds]
  | cons term terms ih =>
    rw [List.map_cons, List.any_cons, ih, anyTermHolds_cons, Bool.and_or_distrib_left]
    rfl

/-- The rules of a policy carry its id and its effect. -/
theorem policyId_and_action_of_mem {resolve : String → Option Application} {p : AccessPolicy}
    {rules : List Rule} (h : compilePolicy resolve o p = .ok rules) :
    ∀ rule ∈ rules, rule.policyId = p.id ∧ rule.action = p.effect := by
  rw [compilePolicy] at h
  split at h
  · split at h
    · -- One rule is made of each term.
      obtain rfl := Except.ok.inj h
      intro rule' hrule
      obtain ⟨sources, -, rfl⟩ := List.mem_map.1 hrule
      exact ⟨rfl, rfl⟩
    · cases h
  · obtain rfl := Except.ok.inj h
    exact fun rule' hrule => absurd hrule List.not_mem_nil
  · obtain rfl := Except.ok.inj h
    exact fun rule' hrule => absurd hrule List.not_mem_nil
  · -- A denial whose place cannot be told makes one rule.
    obtain rfl := Except.ok.inj h
    intro rule' hrule
    obtain rfl := List.mem_singleton.1 hrule
    exact ⟨rfl, rfl⟩

/-- The rules of a policy whose place can be told match where they reach and its tree holds. -/
theorem any_matches_of_place_eq_known {p : AccessPolicy} {rules : List Rule}
    {tag : DestinationTag} {value : String} (hmirrors : o.Mirrors e.settings)
    (hagrees : Agrees reads (e.facts r) p.root.conditions)
    (hplace : place e.resolve p.destination = .known tag value)
    (h : compilePolicy e.resolve o p = .ok rules) :
    rules.any (Rule.matches reads r) =
      (reaches r tag value && (p.root.evaluate (e.facts r)).assume (p.effect == .deny)) := by
  rw [compilePolicy, hplace] at h
  cases hterms : expand (expandOptions o p) p.root with
  | none => simp [hterms] at h
  | some terms =>
    simp only [hterms] at h
    have hvacuous : (e.facts r).vacuousOr = (expandOptions o p).vacuousOr := hmirrors.vacuousOr_eq
    rw [← Except.ok.inj h, any_matches_map_rule, anyTermHolds_of_agrees hagrees hvacuous hterms]
    rfl

/-- At a gateway that a policy is deployed to, it applies as its aim and its tree say. -/
theorem applies_of_deployed {p : AccessPolicy} (hmirrors : o.Mirrors e.settings)
    (hdeployed : p.deployedTo o.gateway = true) :
    (e.visitAccess (e.facts r) p).applies =
      (p.destination.aim e.resolve r).select (p.effect == .deny)
        ((p.root.evaluate (e.facts r)).assume (p.effect == .deny)) := by
  rw [Engine.applies_visitAccess, hmirrors.gateway_eq, hdeployed, Bool.true_and]
  rfl

/-- A rule for every source and every address matches wherever there is an address. -/
theorem matches_rule_anyDestination (p : AccessPolicy) {a : Net.Ipv4}
    (hip : r.destinationIpv4 = some a) :
    (rule p [] .cidr anyDestination).matches reads r = true := by
  show (reaches r .cidr anyDestination && true) = true
  rw [reaches, hip, Option.any_some, networksHold_anyDestination]
  rfl

/-- **The rules of a policy match exactly when the policy applies**, at a gateway it is deployed
to. -/
theorem any_matches_compilePolicy {p : AccessPolicy} {rules : List Rule}
    (hmirrors : o.Mirrors e.settings) (hreadable : NetworksReadable e.resolve)
    (hip : r.destinationIpv4.isSome = true)
    (hagrees : Agrees reads (e.facts r) p.root.conditions)
    (hdeployed : p.deployedTo o.gateway = true)
    (h : compilePolicy e.resolve o p = .ok rules) :
    rules.any (Rule.matches reads r) = (e.visitAccess (e.facts r) p).applies := by
  obtain ⟨a, hip⟩ := Option.isSome_iff_exists.1 hip
  rw [applies_of_deployed hmirrors hdeployed]
  cases hplace : place e.resolve p.destination with
  | known tag value =>
    rw [any_matches_of_place_eq_known hmirrors hagrees hplace h, aim_of_place_eq_known hip hplace,
      Aim.select_ofBool]
  | nowhere =>
    rw [compilePolicy, hplace] at h
    rw [← Except.ok.inj h, aim_of_place_eq_nowhere hplace]
    rfl
  | unknown fault =>
    obtain ⟨fault', haim⟩ := aim_of_place_eq_unknown (r := r) hreadable hplace
    rw [compilePolicy, hplace] at h
    rw [haim]
    cases heffect : p.effect with
    | allow =>
      simp only [heffect] at h
      rw [← Except.ok.inj h]
      rfl
    | deny =>
      -- The policy denies what it cannot tell, so its one rule takes every source and address.
      simp only [heffect] at h
      rw [← Except.ok.inj h, List.any_cons, matches_rule_anyDestination p hip]
      rfl

/-! ### The rules of all policies -/

theorem compileAll_cons_eq_ok_iff {resolve : String → Option Application} {p : AccessPolicy}
    {policies : List AccessPolicy} {rules : List Rule} :
    compileAll resolve o (p :: policies) = .ok rules ↔
      ∃ own rest, compilePolicy resolve o p = .ok own ∧
        compileAll resolve o policies = .ok rest ∧ rules = own ++ rest := by
  simp only [compileAll, Except.bind_eq_ok_iff, Except.pure_eq_ok_iff, exists_and_left]

theorem compile_eq_ok_iff {resolve : String → Option Application} {policies : List AccessPolicy}
    {config : Config} :
    compile resolve o policies = .ok config ↔
      ∃ rules, compileAll resolve o (deployed o policies) = .ok rules ∧
        config = ⟨rules, fingerprint rules⟩ := by
  simp only [compile, Except.bind_eq_ok_iff, Except.pure_eq_ok_iff]

/-- **The first rule that matches is one of the first policy that applies**, among policies that are
deployed to the gateway. -/
theorem firstMatch_compileAll {policies : List AccessPolicy} {rules : List Rule}
    (hmirrors : o.Mirrors e.settings) (hreadable : NetworksReadable e.resolve)
    (hip : r.destinationIpv4.isSome = true)
    (hagrees : ∀ p ∈ policies, Agrees reads (e.facts r) p.root.conditions)
    (hdeployed : ∀ p ∈ policies, p.deployedTo o.gateway = true)
    (h : compileAll e.resolve o policies = .ok rules) :
    (firstMatch reads r rules).map (fun rule => (rule.policyId, rule.action)) =
      (policies.find? fun p => (e.visitAccess (e.facts r) p).applies).map
        fun p => (p.id, p.effect) := by
  induction policies generalizing rules with
  | nil =>
    rw [← Except.ok.inj h]
    rfl
  | cons p policies ih =>
    obtain ⟨own, rest, hown, hrest, rfl⟩ := compileAll_cons_eq_ok_iff.1 h
    have hany := any_matches_compilePolicy hmirrors hreadable hip (hagrees p List.mem_cons_self)
      (hdeployed p List.mem_cons_self) hown
    -- Either the policy applies and one of its own rules is first, or none of them matches.
    rw [firstMatch, List.find?_append, List.find?_cons]
    cases happlies : (e.visitAccess (e.facts r) p).applies with
    | true =>
      rw [happlies, List.any_eq_true] at hany
      obtain ⟨found, hfound⟩ := Option.isSome_iff_exists.1 (List.find?_isSome.2 hany)
      obtain ⟨hid, haction⟩ := policyId_and_action_of_mem hown found
        (List.mem_of_find?_eq_some hfound)
      rw [hfound, Option.some_or, Option.map_some, hid, haction]
      rfl
    | false =>
      -- No rule of the policy matches, so the others are asked.
      have hnone : own.find? (Rule.matches reads r) = none := by
        rw [List.find?_eq_none]
        intro rule hrule hmatches
        rw [happlies, List.any_eq_false] at hany
        exact hany rule hrule hmatches
      rw [hnone, Option.none_or]
      exact ih (fun q hq => hagrees q (List.mem_cons_of_mem _ hq))
        (fun q hq => hdeployed q (List.mem_cons_of_mem _ hq)) hrest

/-- The first policy in force that applies is the first of those that are deployed. -/
theorem find?_applies_deployed (hmirrors : o.Mirrors e.settings) (facts : Facts)
    (policies : List AccessPolicy) :
    (deployed o policies).find? (fun p => (e.visitAccess facts p).applies) =
      (inForce policies).find? fun p => (e.visitAccess facts p).applies := by
  rw [deployed_eq_filter_inForce, List.find?_filter]
  congr 1
  funext p
  rw [Engine.applies_visitAccess, hmirrors.gateway_eq]
  cases p.deployedTo o.gateway <;> simp

/-- **Compiled rules give the engine's answer**: the verdict is the same, the first rule that
matches names the policy that decides, and none matches exactly when the default decides. -/
theorem firstMatch_compile (e : Engine) (o : Options) (policies : List AccessPolicy)
    (signIn : List SignInPolicy) (r : Request) (reads : Tag → Bool) (config : Config)
    (hmirrors : o.Mirrors e.settings) (hreadable : NetworksReadable e.resolve)
    (hip : r.destinationIpv4.isSome = true)
    (hagrees : ∀ p ∈ deployed o policies, Agrees reads (e.facts r) p.root.conditions)
    (hcompile : compile e.resolve o policies = .ok config) :
    verdict reads r config.rules = (e.decideAccess (.ofPolicies policies signIn) r).verdict ∧
      (firstMatch reads r config.rules).map Rule.policyId =
        (e.decideAccess (.ofPolicies policies signIn) r).policyId ∧
      (firstMatch reads r config.rules = none ↔
        (e.decideAccess (.ofPolicies policies signIn) r).isDefault = true) := by
  obtain ⟨rules, hrules, rfl⟩ := compile_eq_ok_iff.1 hcompile
  have hfirst := firstMatch_compileAll hmirrors hreadable hip hagrees
    (fun _ => deployedTo_of_mem_deployed) hrules
  rw [find?_applies_deployed hmirrors] at hfirst
  -- The policy that applies first is the one of the first visit that applies.
  have hdecide : e.decideAccess (.ofPolicies policies signIn) r =
      .ofFirst (Policy.family AccessPolicy) .deny
        ((inForce policies).map (e.visitAccess (e.facts r))) := by
    rw [Engine.decideAccess, hmirrors.resolution_eq, hmirrors.accessDefault_eq]
    rfl
  have hid : (firstMatch reads r rules).map Rule.policyId =
      (e.decideAccess (.ofPolicies policies signIn) r).policyId := by
    have hfst := congrArg (Option.map Prod.fst) hfirst
    rw [Option.map_map, Option.map_map] at hfst
    rw [hdecide, Decision.policyId_ofFirst, List.find?_map, Option.map_map]
    exact hfst
  refine ⟨?_, hid, ?_⟩
  · have hsnd := congrArg (Option.map fun found => found.2.verdict) hfirst
    rw [Option.map_map, Option.map_map] at hsnd
    rw [hdecide, Decision.verdict_ofFirst, List.find?_map, Option.map_map, verdict]
    exact congrArg (Option.getD · .deny) hsnd
  · rw [Decision.isDefault, ← hid, Option.isNone_map, Option.isNone_iff_eq_none]

end Policies

/-! ### The rules of an office -/

/-- Policies by priority: one for another gateway, one that denies by server name and has a country
that is none, and one that admits to an application and has a mail domain that is none. -/
def officePolicies : List AccessPolicy := [
  { AccessPolicy.new "remote" 10 with
    id := "remote"
    gateways := .ofList ["north"] },
  { AccessPolicy.new "guests" 20 with
    id := "guests"
    effect := .deny
    destinationKind := .sni
    destinationSni := some "*.Example.com"
    root := .branch .and [.leaf (.ofOp .country "Home"), .leaf (.ofOp .inGroup "guests")] },
  { AccessPolicy.new "staff" 30 with
    id := "staff"
    destinationKind := .app
    destinationApp := some "wiki"
    root := .branch .or [.leaf (.ofOp .emailSuffix "@"), .leaf (.ofOp .managed "")] }]

/-- The rules for the gateway that is not known. -/
def officeRules : List Rule := [
  ⟨"guests", "guests", .deny, 20, [⟨.identity, "group:guests"⟩], .sni, "*.example.com"⟩,
  ⟨"staff", "staff", .allow, 30, [⟨.deviceManaged, "true"⟩], .cidr, "10.1.0.0/16,10.2.0.0/16"⟩]

/-- An engine that knows one application. -/
def office : Engine where
  settings := .default
  resolve id :=
    if id = "wiki" then some ⟨"wiki", "Wiki", "", [" 10.1.0.0/16", "10.2.0.0/16 "]⟩ else none
  locate _ := none

/-- A managed device that asks for an address of the application, written in eight groups. -/
def officeRequest : Request :=
  { Request.empty with
    device := some ⟨some .linux, true⟩
    destinationIp := some (.v6 ⟨#v[0, 0, 0, 0, 0, 0xFFFF, 0x0A02, 0x0304]⟩) }

/-- The tags that a managed device carries without a user. -/
def managedTags (t : Tag) : Bool :=
  t.kind == .deviceManaged

theorem networksReadable_office : NetworksReadable office.resolve := by
  intro id app happ
  have hone : app = ⟨"wiki", "Wiki", "", [" 10.1.0.0/16", "10.2.0.0/16 "]⟩ := by
    by_cases hid : id = "wiki" <;> simp_all [office]
  rw [hone]
  decide +kernel

theorem deployed_office : deployed .default officePolicies = officePolicies.drop 1 := by
  have hfilter : (officePolicies.filter fun p => p.enabled && p.deployedTo none) =
      officePolicies.drop 1 := by
    decide +kernel
  show (officePolicies.filter fun p => p.enabled && p.deployedTo none).mergeSort _ = _
  rw [hfilter]
  exact List.mergeSort_of_pairwise (by decide +kernel)

theorem compile_office :
    compile office.resolve .default officePolicies =
      .ok ⟨officeRules, fingerprint officeRules⟩ := by
  have hrules : compileAll office.resolve .default (officePolicies.drop 1) = .ok officeRules := by
    decide +kernel
  rw [compile, deployed_office, hrules]
  rfl

/-- The managed device gets to the application by the rule of the policy that decides. -/
theorem firstMatch_compile_office :
    verdict managedTags officeRequest officeRules =
        (office.decideAccess (.ofPolicies officePolicies []) officeRequest).verdict ∧
      (office.decideAccess (.ofPolicies officePolicies []) officeRequest).policyId = some "staff" ∧
      (office.decideAccess (.ofPolicies officePolicies []) officeRequest).isDefault ≠ true := by
  have hagrees : ∀ p ∈ deployed .default officePolicies,
      Agrees managedTags (office.facts officeRequest) p.root.conditions := by
    rw [deployed_office]
    decide +kernel
  obtain ⟨hverdict, hid, hdefault⟩ := firstMatch_compile office .default officePolicies []
    officeRequest managedTags ⟨officeRules, fingerprint officeRules⟩ ⟨rfl, rfl, rfl, rfl⟩
    networksReadable_office (by decide +kernel) hagrees compile_office
  have hmatch : (firstMatch managedTags officeRequest officeRules).map Rule.policyId =
      some "staff" := by
    decide +kernel
  refine ⟨hverdict, hid.symm.trans hmatch, fun h => ?_⟩
  rw [hdefault.2 h] at hmatch
  cases hmatch

end ZeroTrust.Gateway
