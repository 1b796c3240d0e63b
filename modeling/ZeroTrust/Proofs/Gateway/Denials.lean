/-
  `Proofs.Gateway.Denials` — compiled rules where denials override.

  Rules are read by the first match, whatever the engine goes by. Their verdict is
  that of the first policy in force that applies (`verdict_eq_of_compile`), while an
  engine with denials overriding denies wherever any policy that applies does
  (`Engine.verdict_decideAccess_of_denial`). So the two differ exactly where
  the first policy that applies admits the request and one that comes later denies it
  (`Engine.DeniedLate`, `verdict_eq_decideAccess_iff_of_denyOverrides`).
-/
import ZeroTrust.Proofs.Gateway.Agreement

namespace ZeroTrust

namespace Engine

variable (e : Engine) (s : Snapshot) (r : Request)

/-- Whether an access policy applies to a request. -/
def appliesTo (p : AccessPolicy) : Bool :=
  (e.visitAccess (e.facts r) p).applies

/-- Whether the first policy that applies to a request admits it and a later one denies it. -/
def DeniedLate : Prop :=
  (∃ p, s.access.find? (e.appliesTo r) = some p ∧ p.effect = .allow) ∧
    ∃ q ∈ s.access, e.appliesTo r q = true ∧ q.effect = .deny

variable {e s r}

theorem any_denies_accessVisits :
    (e.accessVisits s r).any Decision.denies = true ↔
      ∃ q ∈ s.access, e.appliesTo r q = true ∧ q.effect = .deny := by
  have hdenies : ∀ q : AccessPolicy, Decision.denies (e.visitAccess (e.facts r) q) = true ↔
      e.appliesTo r q = true ∧ q.effect = .deny := by
    intro q
    have hverdict : (q.effect.verdict == Verdict.deny) = (q.effect == .deny) :=
      q.effect.verdict_beq_deny
    rw [Decision.denies, Bool.and_eq_true, appliesTo]
    refine and_congr_right fun _ => ?_
    show (q.effect.verdict == Verdict.deny) = true ↔ _
    rw [hverdict, beq_iff_eq]
  rw [accessVisits, List.any_map, List.any_eq_true]
  exact exists_congr fun q => and_congr_right fun _ => hdenies q

section DenialsOverride

variable (hresolution : e.settings.resolution = .denyOverrides)
  (hdefault : e.settings.accessDefault = .deny)

include hresolution

theorem verdict_decideAccess_of_denial
    (hdeny : ∃ q ∈ s.access, e.appliesTo r q = true ∧ q.effect = .deny) :
    (e.decideAccess s r).verdict = .deny := by
  rw [decideAccess, hresolution, Decision.ofVisits, Decision.verdict_ofDenials,
    if_pos (any_denies_accessVisits.2 hdeny)]

include hdefault

/-- Where no denial applies, the first policy that does decides. -/
theorem verdict_decideAccess_of_no_denial
    (hnone : ¬ ∃ q ∈ s.access, e.appliesTo r q = true ∧ q.effect = .deny) :
    (e.decideAccess s r).verdict =
      ((s.access.find? (e.appliesTo r)).map fun p => p.effect.verdict).getD .deny := by
  have hfind : ((e.accessVisits s r).find? Visit.applies).map Visit.verdict =
      (s.access.find? (e.appliesTo r)).map fun p => p.effect.verdict := by
    rw [accessVisits, List.find?_map, Option.map_map]
    rfl
  rw [decideAccess, hresolution, hdefault, Decision.ofVisits, Decision.verdict_ofDenials,
    if_neg (mt any_denies_accessVisits.1 hnone), ← hfind]
  rfl

end DenialsOverride

end Engine

namespace Gateway

variable {e : Engine} {o : Options} {policies : List AccessPolicy} {r : Request}
  {reads : Tag → Bool} {config : Config}

/-- **Rules give the verdict of the first policy in force that applies**, whatever the engine
decides by. -/
theorem verdict_eq_of_compile (hvacuous : e.settings.vacuousOr = o.vacuousOr)
    (hgateway : e.settings.gateway = o.gateway) (hreadable : NetworksReadable e.resolve)
    (hip : r.destinationIpv4.isSome = true)
    (hagrees : ∀ p ∈ deployed o policies, Agrees reads (e.facts r) p.root.conditions)
    (hcompile : compile e.resolve o policies = .ok config) :
    verdict reads r config.rules =
      (((inForce policies).find? (e.appliesTo r)).map fun p => p.effect.verdict).getD .deny := by
  obtain ⟨rules, hrules, rfl⟩ := compile_eq_ok_iff.1 hcompile
  -- Which policies apply does not depend on how those that apply combine.
  let plain : Engine :=
    ⟨{ e.settings with resolution := .firstMatch, accessDefault := .deny }, e.resolve, e.locate⟩
  have hmirrors : o.Mirrors plain.settings := ⟨rfl, rfl, hvacuous, hgateway⟩
  have hfirst := firstMatch_compileAll (e := plain) (r := r) hmirrors hreadable hip hagrees
    (fun _ => deployedTo_of_mem_deployed) hrules
  rw [find?_applies_deployed hmirrors] at hfirst
  have hverdict := congrArg (Option.map fun found => found.2.verdict) hfirst
  rw [Option.map_map, Option.map_map] at hverdict
  rw [verdict]
  exact congrArg (Option.getD · .deny) hverdict

/-- **Where denials override, rules and engine differ exactly over denials that come late.** -/
theorem verdict_eq_decideAccess_iff_of_denyOverrides (signIn : List SignInPolicy)
    (hresolution : e.settings.resolution = .denyOverrides)
    (hdefault : e.settings.accessDefault = .deny)
    (hvacuous : e.settings.vacuousOr = o.vacuousOr) (hgateway : e.settings.gateway = o.gateway)
    (hreadable : NetworksReadable e.resolve) (hip : r.destinationIpv4.isSome = true)
    (hagrees : ∀ p ∈ deployed o policies, Agrees reads (e.facts r) p.root.conditions)
    (hcompile : compile e.resolve o policies = .ok config) :
    verdict reads r config.rules = (e.decideAccess (.ofPolicies policies signIn) r).verdict ↔
      ¬ e.DeniedLate (.ofPolicies policies signIn) r := by
  rw [verdict_eq_of_compile hvacuous hgateway hreadable hip hagrees hcompile]
  by_cases hdeny : ∃ q ∈ inForce policies, e.appliesTo r q = true ∧ q.effect = .deny
  · -- The engine denies, and so do the rules unless an admission comes first.
    have hrules : (((inForce policies).find? (e.appliesTo r)).map
          fun p => p.effect.verdict).getD .deny = .deny ↔
        ¬ ∃ p, (inForce policies).find? (e.appliesTo r) = some p ∧ p.effect = .allow := by
      cases (inForce policies).find? (e.appliesTo r) with
      | none => simp
      | some p => cases heffect : p.effect <;> simp [heffect, Effect.verdict]
    rw [Engine.verdict_decideAccess_of_denial hresolution hdeny, hrules]
    exact not_congr (and_iff_left hdeny).symm
  · -- Without a denial both go by the first policy that applies.
    rw [Engine.verdict_decideAccess_of_no_denial hresolution hdefault hdeny]
    exact ⟨fun _ hlate => hdeny hlate.2, fun _ => rfl⟩

end Gateway

end ZeroTrust
