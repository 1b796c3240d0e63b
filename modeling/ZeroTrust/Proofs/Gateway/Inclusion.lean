/-
  `Proofs.Gateway.Inclusion` — compiled rules let through no more than the engine.

  Where the networks of an application cannot all be read, rules and engine differ:
  the rules of a policy that allows are left out, and those of one that denies reach
  every address. Both err on the side of denial. So of each policy it is shown that
  a rule of one that allows matches only where the policy applies
  (`applies_of_any_matches`), and that one that denies applies only where a rule of
  it matches (`any_matches_of_applies`). Read in order, such rules allow only where
  the first policy that applies does (`exists_find?_of_verdict_eq_allow`), whatever
  the applications hold (`decideAccess_eq_allow_of_verdict_eq_allow`).
-/
import ZeroTrust.Proofs.Gateway.Agreement

namespace ZeroTrust.Gateway

/-! ### Rules that match, and where they reach -/

section Reach

variable {resolve : String → Option Application} {r : Request} {d : Destination}

/-- A pattern of server names is matched in a rule as in the destination that it comes from. -/
theorem aim_of_place_eq_sni {value : String} (h : place resolve d = .known .sni value) :
    d.aim resolve r = .ofBool (reaches r .sni value) := by
  cases d with
  | any => cases h
  | cidr literal => rw [place] at h; split at h <;> cases h
  | app id =>
    rw [place] at h
    cases happ : resolve id with
    | none => rw [happ] at h; cases h
    | some app =>
      -- An application has networks for a place, and no server names.
      rw [happ, Option.elim_some] at h
      rcases placeOfApplication_cases app id with
        ⟨-, hplace⟩ | ⟨-, -, hplace⟩ | ⟨cidr, -, -, hplace⟩ <;> rw [hplace] at h <;> cases h
  | sni pattern =>
    obtain ⟨-, rfl⟩ := Place.known.inj h
    rw [Destination.aim, reaches, Domain.matchesServer_lower_trim]
  | missing kind => cases h

/-- Where a rule for a place reaches, the destination aims, with or without an address. -/
theorem aim_eq_yes_of_reaches {tag : DestinationTag} {value : String}
    (hplace : place resolve d = .known tag value) (hreaches : reaches r tag value = true) :
    d.aim resolve r = .yes := by
  cases tag with
  | cidr =>
    cases hip : r.destinationIpv4 with
    | none =>
      -- Networks hold addresses only.
      rw [reaches, hip] at hreaches
      cases hreaches
    | some a =>
      rw [aim_of_place_eq_known hip hplace, hreaches]
      rfl
  | sni =>
    rw [aim_of_place_eq_sni hplace, hreaches]
    rfl

end Reach

/-! ### One policy -/

section Policies

variable {e : Engine} {o : Options} {r : Request} {reads : Tag → Bool} {p : AccessPolicy}
  {rules : List Rule}

/-- **A policy that allows applies wherever a rule of it matches.** -/
theorem applies_of_any_matches (hmirrors : o.Mirrors e.settings)
    (hagrees : Agrees reads (e.facts r) p.root.conditions)
    (hdeployed : p.deployedTo o.gateway = true) (hallow : p.effect = .allow)
    (h : compilePolicy e.resolve o p = .ok rules)
    (hany : rules.any (Rule.matches reads r) = true) :
    (e.visitAccess (e.facts r) p).applies = true := by
  rw [applies_of_deployed hmirrors hdeployed]
  cases hplace : place e.resolve p.destination with
  | known tag value =>
    rw [any_matches_of_place_eq_known hmirrors hagrees hplace h, Bool.and_eq_true] at hany
    obtain ⟨hreaches, htree⟩ := hany
    rw [aim_eq_yes_of_reaches hplace hreaches]
    exact htree
  | nowhere =>
    rw [compilePolicy, hplace] at h
    rw [← Except.ok.inj h] at hany
    cases hany
  | unknown fault =>
    -- What cannot be told makes no rule of a policy that allows.
    rw [compilePolicy, hplace, hallow] at h
    rw [← Except.ok.inj h] at hany
    cases hany

/-- **A policy that denies has a rule that matches wherever it applies**, to a request with an
address of four octets. -/
theorem any_matches_of_applies (hmirrors : o.Mirrors e.settings)
    (hip : r.destinationIpv4.isSome = true)
    (hagrees : Agrees reads (e.facts r) p.root.conditions)
    (hdeployed : p.deployedTo o.gateway = true) (hdeny : p.effect = .deny)
    (h : compilePolicy e.resolve o p = .ok rules)
    (happlies : (e.visitAccess (e.facts r) p).applies = true) :
    rules.any (Rule.matches reads r) = true := by
  obtain ⟨a, hip⟩ := Option.isSome_iff_exists.1 hip
  rw [applies_of_deployed hmirrors hdeployed] at happlies
  cases hplace : place e.resolve p.destination with
  | known tag value =>
    rw [aim_of_place_eq_known hip hplace, Aim.select_ofBool] at happlies
    rw [any_matches_of_place_eq_known hmirrors hagrees hplace h]
    exact happlies
  | nowhere =>
    rw [aim_of_place_eq_nowhere hplace] at happlies
    cases happlies
  | unknown fault =>
    -- Whatever the aim is, the one rule takes every source and every address.
    rw [compilePolicy, hplace, hdeny] at h
    rw [← Except.ok.inj h, List.any_cons, matches_rule_anyDestination p hip]
    rfl

/-! ### Policies in their order -/

/-- Rules of one effect of which one matches decide, whatever follows them. -/
theorem verdict_append_of_any {own rest : List Rule} {effect : Effect}
    (haction : ∀ rule ∈ own, rule.action = effect)
    (hany : own.any (Rule.matches reads r) = true) :
    verdict reads r (own ++ rest) = effect.verdict := by
  rw [List.any_eq_true] at hany
  obtain ⟨found, hfound⟩ := Option.isSome_iff_exists.1 (List.find?_isSome.2 hany)
  have hmem : found ∈ own := List.mem_of_find?_eq_some hfound
  rw [verdict, firstMatch, List.find?_append, hfound, Option.some_or, Option.map_some,
    haction found hmem]
  rfl

/-- Rules of which none matches leave the verdict to those that follow. -/
theorem verdict_append_of_not_any {own rest : List Rule}
    (hany : own.any (Rule.matches reads r) = false) :
    verdict reads r (own ++ rest) = verdict reads r rest := by
  have hnone : own.find? (Rule.matches reads r) = none := by
    rw [List.find?_eq_none]
    exact List.any_eq_false.1 hany
  rw [verdict, firstMatch, List.find?_append, hnone, Option.none_or]
  rfl

/-- **Rules that err on the side of denial allow only where the first policy that applies does**,
unless that policy is one of those that are exempt. -/
theorem exists_find?_of_verdict_eq_allow {resolve : String → Option Application}
    (applies : AccessPolicy → Bool) (Exempt : AccessPolicy → Prop) {policies : List AccessPolicy}
    {rules : List Rule}
    (hallow : ∀ p ∈ policies, ∀ own, compilePolicy resolve o p = .ok own → p.effect = .allow →
      own.any (Rule.matches reads r) = true → applies p = true)
    (hdeny : ∀ p ∈ policies, ∀ own, compilePolicy resolve o p = .ok own → p.effect = .deny →
      applies p = true → own.any (Rule.matches reads r) = true ∨ Exempt p)
    (h : compileAll resolve o policies = .ok rules)
    (hverdict : verdict reads r rules = .allow) :
    ∃ p, policies.find? applies = some p ∧ (p.effect = .allow ∨ Exempt p) := by
  induction policies generalizing rules with
  | nil =>
    rw [← Except.ok.inj h] at hverdict
    cases hverdict
  | cons p policies ih =>
    obtain ⟨own, rest, hown, hrest, rfl⟩ := compileAll_cons_eq_ok_iff.1 h
    have haction : ∀ rule ∈ own, rule.action = p.effect :=
      fun rule hrule => (policyId_and_action_of_mem hown rule hrule).2
    cases hany : own.any (Rule.matches reads r) with
    | true =>
      -- A rule of the policy decides. It allows, so the policy does and applies.
      rw [verdict_append_of_any haction hany] at hverdict
      have heffect : p.effect = .allow := by
        cases heffect : p.effect with
        | allow => rfl
        | deny => rw [heffect] at hverdict; cases hverdict
      have happlies := hallow p List.mem_cons_self own hown heffect hany
      exact ⟨p, List.find?_cons_of_pos happlies, .inl heffect⟩
    | false =>
      rw [verdict_append_of_not_any hany] at hverdict
      by_cases happlies : applies p = true
      · -- The policy is passed over by the rules alone, so it does not deny unless it is exempt.
        refine ⟨p, List.find?_cons_of_pos happlies, ?_⟩
        cases heffect : p.effect with
        | allow => exact .inl rfl
        | deny =>
          rcases hdeny p List.mem_cons_self own hown heffect happlies with hmatches | hexempt
          · rw [hany] at hmatches
            cases hmatches
          · exact .inr hexempt
      · rw [List.find?_cons_of_neg happlies]
        exact ih (fun q hq => hallow q (List.mem_cons_of_mem _ hq))
          (fun q hq => hdeny q (List.mem_cons_of_mem _ hq)) hrest hverdict

/-- With the first match deciding and no for a default, the verdict is that of the first policy in
force that applies. -/
theorem verdict_decideAccess (hmirrors : o.Mirrors e.settings) (policies : List AccessPolicy)
    (signIn : List SignInPolicy) (r : Request) :
    (e.decideAccess (.ofPolicies policies signIn) r).verdict =
      (((inForce policies).find? fun p => (e.visitAccess (e.facts r) p).applies).map
        fun p => p.effect.verdict).getD .deny := by
  rw [Engine.decideAccess, hmirrors.resolution_eq, hmirrors.accessDefault_eq, Decision.ofVisits,
    Decision.verdict_ofFirst, Engine.accessVisits, List.find?_map, Option.map_map]
  rfl

/-- **Compiled rules allow only what the engine allows**, whatever the applications hold. -/
theorem decideAccess_eq_allow_of_verdict_eq_allow (e : Engine) (o : Options)
    (policies : List AccessPolicy) (signIn : List SignInPolicy) (r : Request)
    (reads : Tag → Bool) (config : Config) (hmirrors : o.Mirrors e.settings)
    (hip : r.destinationIpv4.isSome = true)
    (hagrees : ∀ p ∈ deployed o policies, Agrees reads (e.facts r) p.root.conditions)
    (hcompile : compile e.resolve o policies = .ok config)
    (hallow : verdict reads r config.rules = .allow) :
    (e.decideAccess (.ofPolicies policies signIn) r).verdict = .allow := by
  obtain ⟨rules, hrules, rfl⟩ := compile_eq_ok_iff.1 hcompile
  -- With an address to go by, no policy is exempt.
  obtain ⟨p, hfind, heffect⟩ := exists_find?_of_verdict_eq_allow
    (fun p => (e.visitAccess (e.facts r) p).applies) (fun _ => False)
    (fun p hp own hown heffect hany => applies_of_any_matches hmirrors (hagrees p hp)
      (deployedTo_of_mem_deployed hp) heffect hown hany)
    (fun p hp own hown heffect happlies => .inl (any_matches_of_applies hmirrors hip (hagrees p hp)
      (deployedTo_of_mem_deployed hp) heffect hown happlies))
    hrules hallow
  rw [find?_applies_deployed hmirrors] at hfind
  rw [verdict_decideAccess hmirrors, hfind, Option.map_some, heffect.resolve_right not_false]
  rfl

end Policies

/-! ### Networks that cannot all be read -/

/-- The rules of policies that are listed in their order and all deployed. -/
theorem compile_of_pairwise {resolve : String → Option Application} {o : Options}
    {policies : List AccessPolicy} {rules : List Rule}
    (hdeployed : ∀ p ∈ policies, (p.enabled && p.deployedTo o.gateway) = true)
    (hsorted : policies.Pairwise fun p q => Policy.precedes p q)
    (hrules : compileAll resolve o policies = .ok rules) :
    compile resolve o policies = .ok ⟨rules, fingerprint rules⟩ := by
  have hlisted : deployed o policies = policies := by
    rw [deployed, List.filter_eq_self.2 hdeployed]
    exact List.mergeSort_of_pairwise hsorted
  rw [compile, hlisted, hrules]
  rfl

/-- An engine that knows one application, of whose networks one is given twice, one has no length
and one is blank. -/
def untidy : Engine where
  settings := .default
  resolve id :=
    if id = "wiki" then
      some ⟨"wiki", "Wiki", "", ["10.1.0.0/16", " 10.1.0.0/16", "10.2.0.0", " "]⟩
    else none
  locate _ := none

/-- Policies that admit managed devices to a network, refuse guests at the application, and admit
everybody else there. -/
def untidyPolicies : List AccessPolicy := [
  { AccessPolicy.new "devices" 10 with
    destinationKind := .cidr
    destinationCidr := some "10.1.0.0/16"
    root := .leaf (.ofOp .managed "") },
  { AccessPolicy.new "guests" 20 with
    effect := .deny
    destinationKind := .app
    destinationApp := some "wiki"
    root := .leaf (.ofOp .inGroup "guests") },
  { AccessPolicy.new "staff" 30 with
    destinationKind := .app
    destinationApp := some "wiki" }]

/-- The denial at the application reaches everywhere, and the admission nowhere. -/
def untidyRules : List Rule := [
  ⟨"", "devices", .allow, 10, [⟨.deviceManaged, "true"⟩], .cidr, "10.1.0.0/16"⟩,
  ⟨"", "guests", .deny, 20, [], .cidr, "0.0.0.0/0"⟩]

/-- A managed device that asks for an address of the application. -/
def untidyRequest : Request :=
  { Request.empty with
    device := some ⟨some .linux, true⟩
    destinationIp := some (.v4 (.ofOctets 10 1 2 3)) }

/-- The managed device is let through ahead of the denial that reaches everywhere, and the engine
lets it through too. -/
theorem decideAccess_eq_allow_of_verdict_eq_allow_untidy :
    verdict managedTags untidyRequest untidyRules = .allow ∧
      (untidy.decideAccess (.ofPolicies untidyPolicies []) untidyRequest).verdict = .allow := by
  have hcompile : compile untidy.resolve .default untidyPolicies =
      .ok ⟨untidyRules, fingerprint untidyRules⟩ :=
    compile_of_pairwise (by decide +kernel) (by decide +kernel) (by decide +kernel)
  have hagrees : ∀ p ∈ untidyPolicies,
      Agrees managedTags (untidy.facts untidyRequest) p.root.conditions := by
    decide +kernel
  have hallow : verdict managedTags untidyRequest untidyRules = .allow := by decide +kernel
  exact ⟨hallow, decideAccess_eq_allow_of_verdict_eq_allow untidy .default untidyPolicies []
    untidyRequest managedTags ⟨untidyRules, fingerprint untidyRules⟩ ⟨rfl, rfl, rfl, rfl⟩
    (by decide +kernel) (fun p hp => hagrees p (mem_of_mem_deployed hp)) hcompile hallow⟩

end ZeroTrust.Gateway
