/-
  `Proofs.Validation.Interpretable` — what passes its checks can be evaluated.

  The checks of a save and evaluation read the values of conditions separately. Of
  a sound condition evaluation can read the value, with one exception: a mail
  domain that is nothing but at-signs is not blank, and yet it names no domain
  (`Condition.query_of_sound`). Nothing else in a policy that passes its checks is
  left open, unless it aims at an application.

  A tree of sound conditions is therefore unknown exactly when it hinges on those
  domains: when it is true with them taken for true and false with them taken for
  false (`Tree.HingesOnBareDomains`). In a policy without them nothing is unknown.
-/
import ZeroTrust.Engine.Basic
import ZeroTrust.Proofs.Evaluation.Boolean
import ZeroTrust.Proofs.Net.Literal
import ZeroTrust.Proofs.Validation.Soundness

namespace ZeroTrust

/-! ### Values that evaluation reads -/

/-- No blank stands in a country code. -/
theorem Country.trim_of_isKnown {code : String} (h : isKnown code = true) :
    Text.trim code = code := by
  have hcodes : (codes.all fun code => code.toList.all fun c => !Text.isBlank c) = true := by
    decide +kernel
  have hcode := List.all_eq_true.1 hcodes code ((isKnown_iff code).1 h)
  exact Text.trim_eq_self fun c hc => by simpa using List.all_eq_true.1 hcode c hc

/-- No blank stands in the word for an operating system. -/
theorem OperatingSystem.trim_of_isSome_named? {s : String} (h : (named? s).isSome = true) :
    Text.trim s = s := by
  obtain ⟨os, hos⟩ := Option.isSome_iff_exists.1 h
  obtain rfl : os.name = s := by simpa using List.find?_some hos
  cases os <;> decide +kernel

namespace Condition

/-- Whether a condition asks for a mail domain and gives nothing but at-signs. -/
def isBareDomain (c : Condition) : Bool :=
  c.op == .emailSuffix && (Text.trim c.value).toList.all (· == '@')

/-- **What evaluation cannot read of a sound condition**: a bare mail domain, and nothing else. -/
theorem query_eq_error_iff_of_sound {c : Condition} (h : c.Sound) (fault : Fault) :
    c.query = .error fault ↔ c.isBareDomain = true ∧ fault = .emptyDomain := by
  obtain ⟨kind, field, op, value⟩ := c
  obtain ⟨hallowed, -, hfault⟩ := h
  change kind.allows op = true at hallowed
  change op.faultOf? value = none at hfault
  simp only [query, isBareDomain, hallowed, Bool.not_true, Bool.false_eq_true, if_false]
  -- What is not blank does not become empty by trimming.
  have htrim : Text.isBlankText value = false → Text.trim value ≠ "" := by
    intro hblank htrim
    rw [(Text.isBlankText_iff value).2 htrim] at hblank
    cases hblank
  cases op with
  | inGroup =>
    have hvalue : Text.trim value ≠ "" := htrim (by simpa [Op.faultOf?] using hfault)
    simp [hvalue]
  | is =>
    have hvalue : Text.trim value ≠ "" := htrim (by simpa [Op.faultOf?] using hfault)
    simp [hvalue]
  | emailSuffix =>
    -- The one operator whose grammar is wider than what evaluation reads.
    have hempty : Text.lower (String.ofList ((Text.trim value).toList.dropWhile (· == '@'))) = "" ↔
        (Text.trim value).toList.all (· == '@') = true := by
      rw [Text.lower_eq_empty_iff, String.ofList_eq_empty_iff, List.dropWhile_eq_nil_iff,
        List.all_eq_true]
    dsimp only
    by_cases hbare : (Text.trim value).toList.all (· == '@') = true
    · rw [if_pos (hempty.2 hbare), hbare]
      simp [eq_comm]
    · rw [if_neg (mt hempty.1 hbare), Bool.eq_false_iff.2 hbare]
      simp
  | cidr =>
    have hparse : (Net.Cidr.parse? value).isSome = true := by
      simpa [Op.faultOf?, Option.isSome_iff_ne_none] using hfault
    obtain ⟨net, hnet⟩ := Option.isSome_iff_exists.1 hparse
    simp [Net.Cidr.trim_of_isSome hparse, hnet]
  | country =>
    have hknown : Country.isKnown value = true := by simpa [Op.faultOf?] using hfault
    simp [Country.trim_of_isKnown hknown, hknown]
  | isPrivate => simp
  | os =>
    have hnamed : (OperatingSystem.named? value).isSome = true := by
      simpa [Op.faultOf?, Option.isSome_iff_ne_none] using hfault
    obtain ⟨os, hos⟩ := Option.isSome_iff_exists.1 hnamed
    simp [OperatingSystem.trim_of_isSome_named? hnamed, hos]
  | managed => simp

/-- A sound condition that is no bare mail domain is true or false. -/
theorem assume_evaluate_of_sound {c : Condition} (h : c.Sound) (facts : Facts) (b : Bool) :
    (c.evaluate facts).assume b = if c.isBareDomain then b else c.evaluate facts == .yes := by
  cases hbare : c.isBareDomain with
  | true =>
    rw [(c.evaluate_eq_unknown_iff facts .emptyDomain).2
      ((query_eq_error_iff_of_sound h .emptyDomain).2 ⟨hbare, rfl⟩)]
    rfl
  | false =>
    cases hvalue : c.evaluate facts with
    | yes => rfl
    | no => rfl
    | unknown fault =>
      have hquery := (c.evaluate_eq_unknown_iff facts fault).1 hvalue
      rw [((query_eq_error_iff_of_sound h fault).1 hquery).1] at hbare
      cases hbare

end Condition

/-! ### Trees of sound conditions -/

namespace Tree

/-- Whether a tree hinges on its bare mail domains: whether it matches with all of them taken for
true, and does not with all of them taken for false. -/
def HingesOnBareDomains (facts : Facts) (t : Tree) : Prop :=
  t.holds (fun c => c.isBareDomain || c.evaluate facts == .yes) facts.vacuousOr = true ∧
    t.holds (fun c => !c.isBareDomain && c.evaluate facts == .yes) facts.vacuousOr = false

instance (facts : Facts) (t : Tree) : Decidable (t.HingesOnBareDomains facts) :=
  inferInstanceAs (Decidable (_ ∧ _))

variable {t : Tree} (hsound : ∀ c ∈ t.conditions, c.Sound) (facts : Facts)
include hsound

/-- **When a tree of sound conditions is unknown**: when it hinges on its bare mail domains. -/
theorem exists_evaluate_eq_unknown_iff :
    (∃ fault, t.evaluate facts = .unknown fault) ↔ t.HingesOnBareDomains facts := by
  -- Each of the two assumptions is a question to the tree, with the bare domains answered alike.
  have htrue : (t.evaluate facts).assume true =
      t.holds (fun c => c.isBareDomain || c.evaluate facts == .yes) facts.vacuousOr := by
    rw [assume_evaluate]
    refine holds_congr facts.vacuousOr t fun c hc => ?_
    rw [Condition.assume_evaluate_of_sound (hsound c hc)]
    cases c.isBareDomain <;> rfl
  have hfalse : (t.evaluate facts).assume false =
      t.holds (fun c => !c.isBareDomain && c.evaluate facts == .yes) facts.vacuousOr := by
    rw [assume_evaluate]
    refine holds_congr facts.vacuousOr t fun c hc => ?_
    rw [Condition.assume_evaluate_of_sound (hsound c hc)]
    cases c.isBareDomain <;> rfl
  rw [Truth.exists_eq_unknown_iff, htrue, hfalse, HingesOnBareDomains]

theorem outcome_of_hinges (h : t.HingesOnBareDomains facts) :
    (t.evaluate facts).outcome = .indeterminate Fault.emptyDomain.message := by
  obtain ⟨fault, hunknown⟩ := (exists_evaluate_eq_unknown_iff hsound facts).2 h
  obtain ⟨c, hc, hquery⟩ := exists_query_eq_error hunknown
  obtain ⟨-, rfl⟩ := (Condition.query_eq_error_iff_of_sound (hsound c hc) fault).1 hquery
  rw [hunknown, Truth.outcome]

theorem outcome_of_not_hinges (h : ¬ t.HingesOnBareDomains facts) :
    (t.evaluate facts).outcome = .matched ∨ (t.evaluate facts).outcome = .notMatched := by
  cases hvalue : t.evaluate facts with
  | yes => exact .inl rfl
  | no => exact .inr rfl
  | unknown fault =>
    exact absurd ((exists_evaluate_eq_unknown_iff hsound facts).1 ⟨fault, hvalue⟩) h

end Tree

/-! ### Destinations -/

/-- A sound destination that is no application is aimed at or not. -/
theorem Destination.aim_ne_unknown {d : Destination} (hsound : d.failures = [])
    (happ : ∀ id, d ≠ .app id) (resolve : String → Option Application) (r : Request)
    (fault : TargetFault) : d.aim resolve r ≠ .unknown fault := by
  cases d with
  | any => simp [aim]
  | cidr literal =>
    have hparse : (Net.Cidr.parse? literal).isSome = true := by
      simpa [failures, cidrFailures, Option.isSome_iff_ne_none] using hsound
    obtain ⟨net, hnet⟩ := Option.isSome_iff_exists.1 hparse
    rw [aim, hnet]
    exact Aim.ofBool_ne_unknown _ fault
  | app id => exact absurd rfl (happ id)
  | sni pattern => exact Aim.ofBool_ne_unknown _ fault
  | missing kind => simp [failures] at hsound

/-! ### Policies that pass their checks -/

namespace Engine

/-- **What passes its checks can be evaluated, but for bare mail domains.** An access policy that
does not aim at an application matches, does not match or does not apply, unless it is reached and
its tree hinges on bare mail domains; a sign-in policy matches or does not match, unless its tree
hinges on them. Where it does, the policy is indeterminate. -/
theorem outcome_of_validate_passed (e : Engine) (facts : Facts) :
    (∀ p : AccessPolicy, p.validate.passed = true → (∀ id, p.destination ≠ .app id) →
      ((p.deployedTo e.settings.gateway = true ∧
          p.destination.aim e.resolve facts.request = .yes ∧ p.root.HingesOnBareDomains facts →
        e.accessOutcome facts p = .indeterminate Fault.emptyDomain.message) ∧
      (¬ (p.deployedTo e.settings.gateway = true ∧
          p.destination.aim e.resolve facts.request = .yes ∧ p.root.HingesOnBareDomains facts) →
        e.accessOutcome facts p = .matched ∨ e.accessOutcome facts p = .notMatched ∨
          e.accessOutcome facts p = .notApplicable))) ∧
    ∀ p : SignInPolicy, p.validate.passed = true →
      ((p.root.HingesOnBareDomains facts →
        signInOutcome facts p = .indeterminate Fault.emptyDomain.message) ∧
      (¬ p.root.HingesOnBareDomains facts →
        signInOutcome facts p = .matched ∨ signInOutcome facts p = .notMatched)) := by
  constructor
  · intro p hpassed happ
    obtain ⟨-, hdestination, -, hsound⟩ := p.validate_passed_iff.1 hpassed
    have hknown := Destination.aim_ne_unknown hdestination happ e.resolve facts.request
    rw [accessOutcome]
    cases hdeployed : p.deployedTo e.settings.gateway with
    | false => simp
    | true =>
      cases haim : p.destination.aim e.resolve facts.request with
      | no => simp
      -- Only an application can leave the aim open.
      | unknown fault => exact absurd haim (hknown fault)
      | yes =>
        simp only [Bool.not_true, Bool.false_eq_true, if_false, true_and]
        -- The policy is reached, so all goes by its tree.
        refine ⟨Tree.outcome_of_hinges hsound facts, fun hnot => ?_⟩
        rcases Tree.outcome_of_not_hinges hsound facts hnot with h | h
        · exact .inl h
        · exact .inr (.inl h)
  · intro p hpassed
    obtain ⟨-, hconditions⟩ := p.validate_passed_iff.1 hpassed
    have hsound : ∀ c ∈ p.root.conditions, c.Sound := fun c hc => (hconditions c hc).2
    -- A policy that passes has no foreign condition, so it is not rejected.
    have hstage : (p.root.conditions.find? fun c => !p.stage.allows c.kind) = none := by
      rw [List.find?_eq_none]
      intro c hc
      simp [(hconditions c hc).1]
    rw [signInOutcome, hstage]
    exact ⟨Tree.outcome_of_hinges hsound facts, Tree.outcome_of_not_hinges hsound facts⟩

/-- Mail of a domain, or a managed device. -/
def mailOrManaged (mail : String) : Tree :=
  .branch .or [.leaf (.ofOp .emailSuffix mail), .leaf (.ofOp .managed "")]

/-- An access policy that admits by mail domain. -/
def mailAccess (mail : String) : AccessPolicy :=
  { AccessPolicy.new "staff" 10 with root := mailOrManaged mail }

/-- A sign-in policy that admits by mail domain. -/
def mailSignIn (mail : String) : SignInPolicy :=
  { SignInPolicy.new "staff" 10 .postAuth with root := mailOrManaged mail }

/-- An engine with the settings where none are given. -/
def standard : Engine := ⟨.default, fun _ => none, fun _ => none⟩

/-- A domain settles the question, and a managed device settles it even beside a bare one. -/
theorem outcome_of_validate_passed_mail :
    (mailAccess "@example.com").validate.passed = true ∧
      (standard.accessOutcome (standard.facts .empty) (mailAccess "@example.com") = .matched ∨
        standard.accessOutcome (standard.facts .empty) (mailAccess "@example.com") = .notMatched ∨
        standard.accessOutcome (standard.facts .empty) (mailAccess "@example.com") =
          .notApplicable) ∧
      (mailSignIn " @@ ").validate.passed = true ∧
      (signInOutcome (standard.facts { Request.empty with device := some ⟨none, true⟩ })
          (mailSignIn " @@ ") = .matched ∨
        signInOutcome (standard.facts { Request.empty with device := some ⟨none, true⟩ })
          (mailSignIn " @@ ") = .notMatched) := by
  obtain ⟨haccess, -⟩ := outcome_of_validate_passed standard (standard.facts .empty)
  obtain ⟨-, hsignIn⟩ := outcome_of_validate_passed standard
    (standard.facts { Request.empty with device := some ⟨none, true⟩ })
  have hvalid : (mailAccess "@example.com").validate.passed = true := by decide +kernel
  have hvalid' : (mailSignIn " @@ ").validate.passed = true := by decide +kernel
  exact ⟨hvalid, (haccess _ hvalid fun _ h => nomatch h).2 (by decide +kernel), hvalid',
    (hsignIn _ hvalid').2 (by decide +kernel)⟩

/-- A bare mail domain passes the checks of a save, and leaves policies of both families open. -/
theorem outcome_of_bare_domain :
    (mailAccess "@").validate.passed = true ∧ (mailAccess "@").destination = .any ∧
      standard.accessOutcome (standard.facts .empty) (mailAccess "@") =
        .indeterminate "email_suffix condition has an empty domain" ∧
      (mailSignIn "@").validate.passed = true ∧
      signInOutcome (standard.facts .empty) (mailSignIn "@") =
        .indeterminate "email_suffix condition has an empty domain" := by
  decide +kernel

end Engine

end ZeroTrust
