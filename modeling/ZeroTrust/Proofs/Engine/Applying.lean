/-
  `Proofs.Engine.Applying` — which policies apply, and what follows for a decision.

  A decision goes by two things of each visit: its verdict, and whether the policy
  applies (`Visit.applies`). With the first match deciding, verdict and id are those
  of the first visit that applies (`verdict_ofFirst`, `policyId_ofFirst`); with
  denials overriding, any denial that applies decides, and else the first visit that
  applies (`verdict_ofDenials`).

  A policy applies when its tree is true, or unknown and the policy denies. In terms
  of `Truth.assume`: when its tree holds with the unknown taken for "it denies"
  (`applies_visitAccess`, `applies_visitSignIn`).

  Visits are compared in pairs (`Visit.Stricter`): a stricter one denies wherever the
  other does and allows only where the other does. Under either resolution, decisions
  of stricter visits are stricter (`verdict_ofVisits_of_stricter`).
-/
import ZeroTrust.Engine.Basic
import ZeroTrust.Proofs.Evaluation.Boolean

namespace ZeroTrust

/-! ### Visits that apply -/

/-- Whether the policy applies. -/
def Visit.applies (v : Visit) : Bool :=
  match v.outcome, v.verdict with
  | .matched, _ => true
  | .indeterminate _, .deny => true
  | _, _ => false

/-- A policy applies exactly when there is a reason why it does. -/
theorem Visit.isSome_applies? (family : String) (v : Visit) :
    (v.applies? family).isSome = v.applies := by
  rw [Visit.applies?, Visit.applies]
  split <;> simp_all

namespace Decision

variable (family : String) (default : Verdict)

/-! ### The first match decides -/

/-- The decision of the first visit that applies goes by that visit alone. -/
theorem ofFirst_cons (v : Visit) (vs : List Visit) :
    (v.applies = true ∧ ∃ reason, ofFirst family default (v :: vs) = (byVisit v reason).after v) ∨
    (v.applies = false ∧
      ofFirst family default (v :: vs) = (ofFirst family default vs).after v) := by
  rw [← Visit.isSome_applies? family v, ofFirst]
  cases v.applies? family with
  | some reason => exact .inl ⟨rfl, reason, rfl⟩
  | none => exact .inr ⟨rfl, rfl⟩

theorem verdict_ofFirst (vs : List Visit) :
    (ofFirst family default vs).verdict =
      ((vs.find? Visit.applies).map Visit.verdict).getD default := by
  induction vs with
  | nil => rfl
  | cons v vs ih =>
    rcases ofFirst_cons family default v vs with ⟨hv, reason, heq⟩ | ⟨hv, heq⟩
    · rw [heq, List.find?_cons_of_pos hv]
      rfl
    · rw [heq, List.find?_cons_of_neg (by simp [hv]), verdict_after, ih]

theorem policyId_ofFirst (vs : List Visit) :
    (ofFirst family default vs).policyId = (vs.find? Visit.applies).map Visit.id := by
  induction vs with
  | nil => rfl
  | cons v vs ih =>
    rcases ofFirst_cons family default v vs with ⟨hv, reason, heq⟩ | ⟨hv, heq⟩
    · rw [heq, List.find?_cons_of_pos hv]
      rfl
    · rw [heq, List.find?_cons_of_neg (by simp [hv]), policyId_after, ih]

/-! ### Denials override -/

/-- Whether the policy applies and denies. -/
def denies (v : Visit) : Bool :=
  v.applies && v.verdict == .deny

theorem verdict_ofDenials (allowed : Option (Visit × String)) (vs : List Visit) :
    (ofDenials family default allowed vs).verdict =
      if vs.any denies then .deny
      else ((allowed.map Prod.fst <|> vs.find? Visit.applies).map Visit.verdict).getD default := by
  -- On the way an allowance comes to be kept, so the induction is for whichever is kept already.
  induction vs generalizing allowed with
  | nil =>
    cases allowed with
    | none => rfl
    | some found => rfl
  | cons v vs ih =>
    rw [ofDenials, List.any_cons, denies, ← Visit.isSome_applies? family v]
    cases h : v.applies? family with
    | none =>
      have hv : v.applies = false := by rw [← Visit.isSome_applies? family v, h]; rfl
      rw [List.find?_cons_of_neg (by simp [hv])]
      simpa using ih allowed
    | some reason =>
      have hv : v.applies = true := by rw [← Visit.isSome_applies? family v, h]; rfl
      rw [List.find?_cons_of_pos hv]
      by_cases hdeny : v.verdict = .deny
      · simp [hdeny, byVisit]
      · -- An allowing visit is kept where none was found before it.
        simp only [hdeny, if_false, verdict_after, ih, Option.isSome_some, Bool.true_and,
          beq_iff_eq, Bool.or_eq_true, false_or]
        cases allowed with
        | none => rfl
        | some found => rfl

end Decision

/-! ### When policies apply -/

/-- Whether a policy applies, given how it aims and whether its tree matches: where the aim is open
it applies as `b` says. -/
def Aim.select (b matched : Bool) : Aim → Bool
  | yes => matched
  | no => false
  | unknown _ => b

/-- Where it can be told whether a policy aims at a request, the rest goes by its tree. -/
theorem Aim.select_ofBool (b matched reached : Bool) :
    (ofBool reached).select b matched = (reached && matched) := by
  cases reached <;> rfl

theorem Truth.outcome_applies (v : Truth) (id name : String) (priority : Int32)
    (verdict : Verdict) :
    (Visit.mk id name priority verdict v.outcome).applies = v.assume (verdict == .deny) := by
  cases v <;> cases verdict <;> rfl

theorem Effect.verdict_beq_deny (effect : Effect) :
    (effect.verdict == Verdict.deny) = (effect == .deny) := by
  cases effect <;> rfl

theorem SignInPolicy.verdict_beq_deny (p : SignInPolicy) :
    (p.verdict == Verdict.deny) = p.block := by
  rw [verdict]
  cases p.block <;> rfl

namespace Engine

/-- **When an access policy applies**: at a gateway it is deployed to and a destination it aims at,
when its tree matches; a denying policy takes what is unknown for a match, and an allowing one takes
it for none. -/
theorem applies_visitAccess (e : Engine) (facts : Facts) (p : AccessPolicy) :
    (e.visitAccess facts p).applies =
      (p.deployedTo e.settings.gateway &&
        (p.destination.aim e.resolve facts.request).select (p.effect == .deny)
          ((p.root.evaluate facts).assume (p.effect == .deny))) := by
  rw [visitAccess, accessOutcome]
  cases p.deployedTo e.settings.gateway with
  | false => rfl
  | true =>
    simp only [Bool.not_true, Bool.false_eq_true, if_false, Bool.true_and]
    cases p.destination.aim e.resolve facts.request with
    | no => rfl
    -- An aim that cannot be told leaves the tree aside, and only a denial applies.
    | unknown fault => cases h : p.effect <;> rfl
    | yes => rw [Truth.outcome_applies, Effect.verdict_beq_deny, Aim.select]

/-- **When a sign-in policy applies**: when none of its conditions is foreign to its stage and its
tree matches; a blocking policy takes what is unknown for a match. -/
theorem applies_visitSignIn (facts : Facts) (p : SignInPolicy) :
    (visitSignIn facts p).applies =
      ((p.root.conditions.all fun c => p.stage.allows c.kind) &&
        (p.root.evaluate facts).assume p.block) := by
  rw [visitSignIn, signInOutcome]
  -- A policy with a foreign condition is rejected, and applies to nothing.
  cases h : p.root.conditions.find? fun c => !p.stage.allows c.kind with
  | none =>
    have hall : (p.root.conditions.all fun c => p.stage.allows c.kind) = true := by
      simpa [List.find?_eq_none] using h
    rw [hall, Bool.true_and]
    exact (Truth.outcome_applies _ _ _ _ _).trans (by rw [p.verdict_beq_deny])
  | some foreign =>
    have hforeign : p.stage.allows foreign.kind = false := by simpa using List.find?_some h
    have hall : (p.root.conditions.all fun c => p.stage.allows c.kind) = false := by
      rw [List.all_eq_false]
      exact ⟨foreign, List.mem_of_find?_eq_some h, by simp [hforeign]⟩
    rw [hall, Bool.false_and]
    rfl

end Engine

/-! ### Stricter visits -/

/-- A visit with the same verdict that allows at most where another does and denies at least where
it does. -/
structure Visit.Stricter (v' v : Visit) : Prop where
  verdict_eq : v'.verdict = v.verdict
  allows : v.verdict = .allow → v'.applies = true → v.applies = true
  denies : v.verdict = .deny → v.applies = true → v'.applies = true

namespace Decision

variable {vs' vs : List Visit}

theorem verdict_ofFirst_of_stricter (family : String) (default : Verdict)
    (h : List.Forall₂ Visit.Stricter vs' vs) :
    (ofFirst family default vs').verdict = .allow →
      (ofFirst family default vs).verdict = .allow := by
  simp only [verdict_ofFirst]
  induction h with
  | nil => exact id
  | @cons v' v vs' vs hv _ ih =>
    intro hallow
    by_cases hv' : v'.applies = true
    · -- The first to apply allows, so the visit it is compared with applies too.
      rw [List.find?_cons_of_pos hv'] at hallow
      have hverdict : v.verdict = .allow := hv.verdict_eq ▸ hallow
      rw [List.find?_cons_of_pos (hv.allows hverdict hv')]
      exact hverdict
    · rw [List.find?_cons_of_neg hv'] at hallow
      -- What applies here and not in the stricter list can only allow, as a denial would apply
      -- there.
      by_cases happlies : v.applies = true
      · rw [List.find?_cons_of_pos happlies]
        cases hverdict : v.verdict with
        | allow => exact hverdict
        | deny => exact absurd (hv.denies hverdict happlies) hv'
      · rw [List.find?_cons_of_neg happlies]
        exact ih hallow

/-- With denials overriding, a request is allowed when no denial applies and some policy does, or
none does and that is the default. -/
theorem verdict_ofDenials_eq_allow_iff (family : String) (default : Verdict) (vs : List Visit) :
    (ofDenials family default none vs).verdict = .allow ↔
      (∀ v ∈ vs, v.applies = true → v.verdict = .allow) ∧
        ((∃ v ∈ vs, v.applies = true) ∨ default = .allow) := by
  have hany : vs.any denies = true ↔ ∃ v ∈ vs, v.applies = true ∧ v.verdict = .deny := by
    simp [List.any_eq_true, denies]
  rw [verdict_ofDenials]
  by_cases hdeny : vs.any denies = true
  · obtain ⟨v, hv, happlies, hverdict⟩ := hany.1 hdeny
    simp only [hdeny, if_true, reduceCtorEq, false_iff, not_and]
    intro hall
    rw [hall v hv happlies] at hverdict
    cases hverdict
  · -- Whatever applies allows, so all depends on whether anything applies.
    have hall : ∀ v ∈ vs, v.applies = true → v.verdict = .allow := by
      intro v hv happlies
      cases hverdict : v.verdict with
      | allow => rfl
      | deny => exact absurd (hany.2 ⟨v, hv, happlies, hverdict⟩) hdeny
    rw [if_neg hdeny]
    cases hfind : vs.find? Visit.applies with
    | none =>
      have hnone : ¬ ∃ v ∈ vs, v.applies = true := by simpa using hfind
      show default = .allow ↔ _
      exact ⟨fun hdefault => ⟨hall, .inr hdefault⟩, fun h => h.2.resolve_left hnone⟩
    | some v =>
      have hv := List.mem_of_find?_eq_some hfind
      have happlies := List.find?_some hfind
      have hex : ∃ v ∈ vs, v.applies = true := ⟨v, hv, happlies⟩
      show v.verdict = .allow ↔ _
      exact ⟨fun _ => ⟨hall, .inl hex⟩, fun _ => hall v hv happlies⟩

theorem verdict_ofDenials_of_stricter (family : String) (default : Verdict)
    (h : List.Forall₂ Visit.Stricter vs' vs) :
    (ofDenials family default none vs').verdict = .allow →
      (ofDenials family default none vs).verdict = .allow := by
  rw [verdict_ofDenials_eq_allow_iff, verdict_ofDenials_eq_allow_iff]
  rintro ⟨hall, happly⟩
  -- A denial that applies in the one list would apply in the stricter list as well.
  have hforall : ∀ v ∈ vs, v.applies = true → v.verdict = .allow := by
    intro v hv happlies
    obtain ⟨v', hv', hstrict⟩ := exists_of_mem_right h hv
    cases hverdict : v.verdict with
    | allow => rfl
    | deny =>
      have hallow := hall v' hv' (hstrict.denies hverdict happlies)
      rw [hstrict.verdict_eq, hverdict] at hallow
      cases hallow
  refine ⟨hforall, happly.imp_left ?_⟩
  rintro ⟨v', hv', happlies⟩
  obtain ⟨v, hv, hstrict⟩ := exists_of_mem_left h hv'
  exact ⟨v, hv, hstrict.allows (hstrict.verdict_eq ▸ hall v' hv' happlies) happlies⟩

/-- **Stricter visits make stricter decisions**, whatever the resolution and the default. -/
theorem verdict_ofVisits_of_stricter (resolution : Resolution) (family : String)
    (default : Verdict) (h : List.Forall₂ Visit.Stricter vs' vs) :
    (ofVisits resolution family default vs').verdict = .allow →
      (ofVisits resolution family default vs).verdict = .allow := by
  cases resolution with
  | firstMatch => exact verdict_ofFirst_of_stricter family default h
  | denyOverrides => exact verdict_ofDenials_of_stricter family default h

end Decision

end ZeroTrust
