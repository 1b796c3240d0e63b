/-
  `Proofs.Gateway.NoAddress` — compiled rules and requests without an address.

  A rule for networks takes in addresses of four octets only. A request that asks
  for a server name, or for an address of the other size, goes past every such rule,
  also past those that stand for all destinations. So a denial for any destination,
  or for one that cannot be resolved (`Destination.isBlanket`), applies to the
  request and has no rule that matches it, and a later policy for the server name
  lets it through (`verdict_ne_of_blanket_denial`).

  Nothing else is lost. A policy that denies and is no blanket denial applies only
  where a rule of it matches (`any_matches_of_applies_of_not_isBlanket`). Hence the
  exact condition: where the rules allow a request without an address, the engine
  allows it unless it decides by a blanket denial
  (`decideAccess_eq_allow_iff_of_no_address`).
-/
import ZeroTrust.Proofs.Gateway.Inclusion

namespace ZeroTrust

/-- Whether a destination does not depend on where a request goes: because it is any destination, or
because it cannot be resolved. -/
def Destination.isBlanket (resolve : String → Option Application) : Destination → Bool
  | any => true
  | cidr literal => (Net.Cidr.parse? literal).isNone
  | app id => (resolve id).isNone
  | sni _ => false
  | missing _ => true

namespace Gateway

/-! ### Destinations of a request without an address -/

/-- A request without an address is aimed at by server name, or by a blanket destination. -/
theorem aim_eq_no_or_place_eq_sni {resolve : String → Option Application} {r : Request}
    {d : Destination} (hip : r.destinationIpv4 = none) (h : d.isBlanket resolve = false) :
    d.aim resolve r = .no ∨ ∃ value, place resolve d = .known .sni value := by
  cases d with
  | any => cases h
  | cidr literal =>
    obtain ⟨net, hnet⟩ := Option.isSome_iff_exists.1 (Option.isNone_eq_false_iff.1 h)
    left
    rw [Destination.aim, hnet, hip]
    rfl
  | app id =>
    obtain ⟨app, happ⟩ := Option.isSome_iff_exists.1 (Option.isNone_eq_false_iff.1 h)
    left
    -- Without an address no network of the application is read, so none can be at fault.
    rw [Destination.aim, happ, hip]
    rfl
  | sni pattern => exact .inr ⟨_, rfl⟩
  | missing kind => cases h

section Policies

variable {e : Engine} {o : Options} {r : Request} {reads : Tag → Bool}

/-- A policy that denies and is no blanket denial has a rule that matches wherever it applies, to a
request without an address. -/
theorem any_matches_of_applies_of_not_isBlanket {p : AccessPolicy} {rules : List Rule}
    (hmirrors : o.Mirrors e.settings) (hip : r.destinationIpv4 = none)
    (hagrees : Agrees reads (e.facts r) p.root.conditions)
    (hdeployed : p.deployedTo o.gateway = true)
    (hblanket : p.destination.isBlanket e.resolve = false)
    (h : compilePolicy e.resolve o p = .ok rules)
    (happlies : (e.visitAccess (e.facts r) p).applies = true) :
    rules.any (Rule.matches reads r) = true := by
  rw [applies_of_deployed hmirrors hdeployed] at happlies
  rcases aim_eq_no_or_place_eq_sni hip hblanket with haim | ⟨value, hplace⟩
  · -- A policy that is not aimed at the request does not apply.
    rw [haim] at happlies
    cases happlies
  · rw [aim_of_place_eq_sni hplace, Aim.select_ofBool] at happlies
    rw [any_matches_of_place_eq_known hmirrors hagrees hplace h]
    exact happlies

/-- **Where compiled rules allow a request without an address**, the engine allows it exactly when
the first policy that applies is no blanket denial. -/
theorem decideAccess_eq_allow_iff_of_no_address (e : Engine) (o : Options)
    (policies : List AccessPolicy) (signIn : List SignInPolicy) (r : Request)
    (reads : Tag → Bool) (config : Config) (hmirrors : o.Mirrors e.settings)
    (hip : r.destinationIpv4 = none)
    (hagrees : ∀ p ∈ deployed o policies, Agrees reads (e.facts r) p.root.conditions)
    (hcompile : compile e.resolve o policies = .ok config)
    (hallow : verdict reads r config.rules = .allow) :
    (e.decideAccess (.ofPolicies policies signIn) r).verdict = .allow ↔
      ∀ p, ((inForce policies).find? fun p => (e.visitAccess (e.facts r) p).applies) = some p →
        ¬ (p.effect = .deny ∧ p.destination.isBlanket e.resolve = true) := by
  obtain ⟨rules, hrules, rfl⟩ := compile_eq_ok_iff.1 hcompile
  -- Exempt are the policies for blanket destinations: their rules may miss what they deny.
  obtain ⟨p, hfind, heffect⟩ := exists_find?_of_verdict_eq_allow
    (fun p => (e.visitAccess (e.facts r) p).applies)
    (fun p => p.destination.isBlanket e.resolve = true)
    (fun p hp own hown heffect hany => applies_of_any_matches hmirrors (hagrees p hp)
      (deployedTo_of_mem_deployed hp) heffect hown hany)
    (fun p hp own hown heffect happlies => by
      cases hblanket : p.destination.isBlanket e.resolve with
      | true => exact .inr rfl
      | false =>
        exact .inl (any_matches_of_applies_of_not_isBlanket hmirrors hip (hagrees p hp)
          (deployedTo_of_mem_deployed hp) hblanket hown happlies))
    hrules hallow
  rw [find?_applies_deployed hmirrors] at hfind
  rw [verdict_decideAccess hmirrors, hfind, Option.map_some, Option.getD_some]
  constructor
  · rintro hverdict q hq ⟨hdeny, -⟩
    obtain rfl := Option.some.inj hq
    rw [hdeny] at hverdict
    cases hverdict
  · -- The first policy that applies can deny only as a blanket denial.
    intro hnone
    cases hp : p.effect with
    | allow => rfl
    | deny =>
      have hblanket : p.destination.isBlanket e.resolve = true :=
        heffect.resolve_left (by rw [hp]; exact Effect.noConfusion)
      exact absurd ⟨hp, hblanket⟩ (hnone p rfl)

end Policies

/-! ### A server name -/

/-- A managed device that asks for a server by its name alone. -/
def serverRequest : Request :=
  { Request.empty with
    device := some ⟨some .linux, true⟩
    destinationSni := some "git.example.com" }

/-- A policy that admits managed devices to the servers of a domain. -/
def serverPolicy : AccessPolicy :=
  { AccessPolicy.new "servers" 30 with
    destinationKind := .sni
    destinationSni := some "*.example.com"
    root := .leaf (.ofOp .managed "") }

/-- The rule of the policy. -/
def serverRule : Rule :=
  ⟨"", "servers", .allow, 30, [⟨.deviceManaged, "true"⟩], .sni, "*.example.com"⟩

/-- A policy that denies requests to a network. -/
def networkDenial : AccessPolicy :=
  { AccessPolicy.new "network" 10 with
    effect := .deny
    destinationKind := .cidr
    destinationCidr := some "10.0.0.0/8" }

/-- A policy that denies every request. -/
def blanketDenial : AccessPolicy :=
  { AccessPolicy.new "closed" 20 with effect := .deny }

/-- The rules for a network that is denied, and for all of them, take in no server name; the engine
denies the network alone. -/
theorem decideAccess_eq_allow_iff_of_no_address_server :
    verdict managedTags serverRequest
        [⟨"", "network", .deny, 10, [], .cidr, "10.0.0.0/8"⟩, serverRule] = .allow ∧
      (office.decideAccess (.ofPolicies [networkDenial, serverPolicy] []) serverRequest).verdict =
        .allow := by
  have hcompile : compile office.resolve .default [networkDenial, serverPolicy] =
      .ok ⟨_, fingerprint [⟨"", "network", .deny, 10, [], .cidr, "10.0.0.0/8"⟩, serverRule]⟩ :=
    compile_of_pairwise (by decide +kernel) (by decide +kernel) (by decide +kernel)
  have hagrees : ∀ p ∈ [networkDenial, serverPolicy],
      Agrees managedTags (office.facts serverRequest) p.root.conditions := by
    decide +kernel
  have hallow : verdict managedTags serverRequest
      [⟨"", "network", .deny, 10, [], .cidr, "10.0.0.0/8"⟩, serverRule] = .allow := by
    decide +kernel
  refine ⟨hallow, (decideAccess_eq_allow_iff_of_no_address office .default
    [networkDenial, serverPolicy] [] serverRequest managedTags _ ⟨rfl, rfl, rfl, rfl⟩
    (by decide +kernel) (fun p hp => hagrees p (mem_of_mem_deployed hp)) hcompile hallow).2 ?_⟩
  -- Neither policy is a blanket one.
  rintro p hfind ⟨-, hblanket⟩
  have hmem := List.mem_of_find?_eq_some hfind
  rw [inForce, List.mem_mergeSort, List.mem_filter] at hmem
  have hall : ∀ p ∈ [networkDenial, serverPolicy],
      p.destination.isBlanket office.resolve = false := by decide +kernel
  rw [hall p hmem.1] at hblanket
  cases hblanket

/-- **A blanket denial does not stop a request for a server name**: the rules let it through by the
policy that comes after, and the engine denies it. -/
theorem verdict_ne_of_blanket_denial :
    serverRequest.destinationIpv4 = none ∧
      (∀ p ∈ [blanketDenial, serverPolicy],
        Agrees managedTags (office.facts serverRequest) p.root.conditions) ∧
      (∃ config, compile office.resolve .default [blanketDenial, serverPolicy] = .ok config ∧
        verdict managedTags serverRequest config.rules = .allow) ∧
      (office.decideAccess (.ofPolicies [blanketDenial, serverPolicy] []) serverRequest).verdict =
        .deny := by
  have hcompile : compile office.resolve .default [blanketDenial, serverPolicy] =
      .ok ⟨[⟨"", "closed", .deny, 20, [], .cidr, "0.0.0.0/0"⟩, serverRule], _⟩ :=
    compile_of_pairwise (by decide +kernel) (by decide +kernel) (by decide +kernel)
  have hinForce : inForce [blanketDenial, serverPolicy] = [blanketDenial, serverPolicy] :=
    List.mergeSort_of_pairwise (by decide +kernel)
  have hmirrors : Options.default.Mirrors office.settings := ⟨rfl, rfl, rfl, rfl⟩
  refine ⟨by decide +kernel, by decide +kernel, ⟨_, hcompile, by decide +kernel⟩, ?_⟩
  rw [verdict_decideAccess hmirrors, hinForce]
  decide +kernel

end Gateway

end ZeroTrust
