/-
  `Proofs.Engine.Overriding` — denials that override, beside the first match.

  The two resolutions differ only for requests that a policy allows before another
  one denies them. So a decision in which denials override is stricter than that of
  the first match, in the sense of `Decision.Overrides`: where it allows, the first
  match allows through the same policy, and where the first match denies through a
  policy, it is the same decision, trace and all (`overrides_ofVisits`).

  Where denials override, the verdict goes by what the visits that apply answer and
  not by where they stand (`verdict_ofDenials_eq_of_perm`). No policy applies, or
  fails to apply, on account of its priority. So the verdict is that of the same
  policies in any other order and with any other priorities
  (`AccessPolicy.Reranked`, `SignInPolicy.Reranked`), whether they are in force as
  they stand or are sorted first (`perm_map_inForce`).
-/
import ZeroTrust.Proofs.Engine.Deciding
import ZeroTrust.Proofs.Policy.Consultation

namespace ZeroTrust

/-- Two verdicts are the same when they allow together. -/
theorem Verdict.eq_of_eq_allow_iff {a b : Verdict} (h : a = .allow ↔ b = .allow) : a = b := by
  cases a <;> cases b <;> simp_all

/-! ### One list of visits under both resolutions -/

namespace Decision

/-- What a decision in which denials override has to do with that of the first match. -/
structure Overrides (overriding first : Decision) : Prop where
  /-- It allows only what the first match allows, through the same policy for the same reason. -/
  allows : overriding.verdict = .allow → first.verdict = .allow ∧
    first.policyId = overriding.policyId ∧ first.reason = overriding.reason
  /-- It is the decision of the first match where that denies through a policy. -/
  denies : first.verdict = .deny → first.policyId ≠ none → overriding = first

variable {family : String} {default : Verdict} {visits : List Visit} {d : Decision}

theorem ofFirst_of_settles_allow (h : Settles family default .denyOverrides visits d)
    (hallow : d.verdict = .allow) :
    (ofFirst family default visits).verdict = .allow ∧
      (ofFirst family default visits).policyId = d.policyId ∧
      (ofFirst family default visits).reason = d.reason := by
  cases h with
  | denial hfront hv hdeny => exact absurd (hdeny.symm.trans hallow) Verdict.noConfusion
  | allowance hfront hv _ =>
    rw [ofFirst_append_cons hfront hv]
    exact ⟨hallow, rfl, rfl⟩
  | none h =>
    rw [ofFirst_of_none h]
    exact ⟨hallow, rfl, rfl⟩

/-- A denial that applies first is also the first that applies and denies. -/
theorem settles_denyOverrides_of_deny (h : Settles family default .firstMatch visits d)
    (hdeny : d.verdict = .deny) (hid : d.policyId ≠ none) :
    Settles family default .denyOverrides visits d := by
  cases h with
  | firstMatch hfront hv =>
    -- Nothing before it applies at all, so no denial does.
    refine .denial (fun u hu happlies => ?_) hv hdeny
    rw [hfront u hu] at happlies
    cases happlies
  | none h => exact absurd rfl hid

theorem overrides_ofVisits (family : String) (default : Verdict) (visits : List Visit) :
    (ofVisits .denyOverrides family default visits).Overrides
      (ofVisits .firstMatch family default visits) where
  allows := ofFirst_of_settles_allow (settles_iff.2 rfl)
  denies hdeny hid :=
    (eq_ofVisits_of_settles (settles_denyOverrides_of_deny (settles_iff.2 rfl) hdeny hid)).symm

/-! ### Visits in any order -/

/-- All that the verdict asks of a visit where denials override. -/
def answer (v : Visit) : Bool × Verdict :=
  (v.applies, v.verdict)

theorem verdict_ofDenials_eq_allow_iff_answers (family : String) (default : Verdict)
    (visits : List Visit) :
    (ofDenials family default none visits).verdict = .allow ↔
      (∀ a ∈ visits.map answer, a.1 = true → a.2 = .allow) ∧
        ((∃ a ∈ visits.map answer, a.1 = true) ∨ default = .allow) := by
  rw [verdict_ofDenials_eq_allow_iff, List.forall_mem_map]
  simp [answer]

theorem verdict_ofDenials_eq_of_perm (family : String) (default : Verdict)
    {visits visits' : List Visit} (h : (visits.map answer).Perm (visits'.map answer)) :
    (ofDenials family default none visits).verdict =
      (ofDenials family default none visits').verdict := by
  apply Verdict.eq_of_eq_allow_iff
  simp only [verdict_ofDenials_eq_allow_iff_answers, h.mem_iff]

end Decision

/-! ### Policies with any priorities -/

/-- A policy without its place in the order. -/
def AccessPolicy.unranked (p : AccessPolicy) : AccessPolicy :=
  { p with priority := 0 }

/-- A policy without its place in the order. -/
def SignInPolicy.unranked (p : SignInPolicy) : SignInPolicy :=
  { p with priority := 0 }

/-- Whether two lists hold the same policies, in any order and with any priorities. -/
def AccessPolicy.Reranked (ps qs : List AccessPolicy) : Prop :=
  (ps.map unranked).Perm (qs.map unranked)

/-- Whether two lists hold the same policies, in any order and with any priorities. -/
def SignInPolicy.Reranked (ps qs : List SignInPolicy) : Prop :=
  (ps.map unranked).Perm (qs.map unranked)

/-- What is left of policies when their places are left out does not depend on the sorting. -/
theorem perm_map_inForce {P : Type} [Policy P] (unranked : P → P)
    (henabled : ∀ p, Policy.enabled (unranked p) = Policy.enabled p) {ps qs : List P}
    (h : (ps.map unranked).Perm (qs.map unranked)) :
    ((inForce ps).map unranked).Perm ((inForce qs).map unranked) := by
  -- Leaving the places out before the sorting comes to the same, as whether a policy is enabled is
  -- kept and the sorting only permutes.
  have hfilter : ∀ rs : List P, ((inForce rs).map unranked).Perm
      ((rs.map unranked).filter Policy.enabled) := by
    intro rs
    have hcomp : Policy.enabled ∘ unranked = Policy.enabled (P := P) := funext henabled
    rw [List.filter_map, hcomp]
    exact (List.mergeSort_perm _ _).map unranked
  exact (hfilter ps).trans ((h.filter _).trans (hfilter qs).symm)

namespace Engine

/-- An engine with another resolution. -/
def withResolution (e : Engine) (resolution : Resolution) : Engine :=
  { e with settings := { e.settings with resolution := resolution } }

theorem perm_answers_accessVisits (e : Engine) (r : Request) {s s' : Snapshot}
    (h : AccessPolicy.Reranked s.access s'.access) :
    ((e.accessVisits s r).map Decision.answer).Perm
      ((e.accessVisits s' r).map Decision.answer) := by
  -- A visit gives its answer without a look at the priority.
  have hunranked : ∀ t : Snapshot, (e.accessVisits t r).map Decision.answer =
      (t.access.map AccessPolicy.unranked).map fun p =>
        Decision.answer (e.visitAccess (e.facts r) p) := by
    intro t
    rw [accessVisits, List.map_map, List.map_map]
    rfl
  rw [hunranked, hunranked]
  exact h.map _

theorem perm_answers_signInVisits (e : Engine) (stage : Stage) (r : Request) {s s' : Snapshot}
    (h : SignInPolicy.Reranked s.signIn s'.signIn) :
    ((e.signInVisits s stage r).map Decision.answer).Perm
      ((e.signInVisits s' stage r).map Decision.answer) := by
  -- Here the priority must not matter for the stage either, by which the policies are chosen.
  have hunranked : ∀ t : Snapshot, (e.signInVisits t stage r).map Decision.answer =
      ((t.signIn.map SignInPolicy.unranked).filter fun p => p.stage == stage).map fun p =>
        Decision.answer (visitSignIn (e.facts r) p) := by
    intro t
    rw [signInVisits, List.filter_map, List.map_map, List.map_map]
    rfl
  rw [hunranked, hunranked]
  exact (h.filter _).map _

/-- Whether an engine gives the same verdicts on two snapshots. -/
structure SameVerdicts (e : Engine) (s s' : Snapshot) : Prop where
  decideAccess : ∀ r, (e.decideAccess s r).verdict = (e.decideAccess s' r).verdict
  decideSignIn : ∀ stage r, (e.decideSignIn s stage r).verdict = (e.decideSignIn s' stage r).verdict

theorem sameVerdicts_of_reranked {e : Engine} (hoverrides : e.settings.resolution = .denyOverrides)
    {s s' : Snapshot} (haccess : AccessPolicy.Reranked s.access s'.access)
    (hsignIn : SignInPolicy.Reranked s.signIn s'.signIn) : e.SameVerdicts s s' where
  decideAccess r := by
    rw [Engine.decideAccess, Engine.decideAccess, hoverrides]
    exact Decision.verdict_ofDenials_eq_of_perm _ _ (e.perm_answers_accessVisits r haccess)
  decideSignIn stage r := by
    rw [Engine.decideSignIn, Engine.decideSignIn, hoverrides]
    exact Decision.verdict_ofDenials_eq_of_perm _ _ (e.perm_answers_signInVisits stage r hsignIn)

/-- **Denials that override make the first match stricter and do not ask for priorities.** Of two
engines that differ in their resolution only, the one in which denials override allows no more than
the other, through the same policy, and denies as it does where a policy denies there. Its verdicts
are the same for any order and any priorities of the policies, in force as they stand or sorted
first. -/
theorem overrides_and_sameVerdicts (e : Engine) :
    (∀ s r, ((e.withResolution .denyOverrides).decideAccess s r).Overrides
      ((e.withResolution .firstMatch).decideAccess s r)) ∧
    (∀ s stage r, ((e.withResolution .denyOverrides).decideSignIn s stage r).Overrides
      ((e.withResolution .firstMatch).decideSignIn s stage r)) ∧
    (∀ s s', AccessPolicy.Reranked s.access s'.access → SignInPolicy.Reranked s.signIn s'.signIn →
      (e.withResolution .denyOverrides).SameVerdicts s s') ∧
    ∀ access access' signIn signIn', AccessPolicy.Reranked access access' →
      SignInPolicy.Reranked signIn signIn' →
        (e.withResolution .denyOverrides).SameVerdicts (.ofPolicies access signIn)
          (.ofPolicies access' signIn') := by
  refine ⟨fun s r => Decision.overrides_ofVisits _ _ _,
    fun s stage r => Decision.overrides_ofVisits _ _ _,
    fun s s' haccess hsignIn => sameVerdicts_of_reranked rfl haccess hsignIn, ?_⟩
  intro access access' signIn signIn' haccess hsignIn
  have haccess' : AccessPolicy.Reranked (inForce access) (inForce access') :=
    perm_map_inForce AccessPolicy.unranked (fun _ => rfl) haccess
  have hsignIn' : SignInPolicy.Reranked (inForce signIn) (inForce signIn') :=
    perm_map_inForce SignInPolicy.unranked (fun _ => rfl) hsignIn
  exact sameVerdicts_of_reranked rfl haccess' hsignIn'

/-! ### Policies in another order -/

/-- Whether two lists hold the same policies can be found out. -/
instance (ps qs : List AccessPolicy) : Decidable (AccessPolicy.Reranked ps qs) :=
  inferInstanceAs (Decidable (List.Perm _ _))

/-- The policies of the snapshot in doubt, the last ones first and with their priorities raised. -/
def turnedSnapshot : Snapshot where
  access := doubtfulSnapshot.access.reverse.map fun p => { p with priority := p.priority + 100 }
  signIn := doubtfulSnapshot.signIn

/-- With the first match deciding, the turned policies deny what they allowed before. Where denials
override they deny both times, and the denial is that of the first match afterwards. -/
theorem overrides_and_sameVerdicts_turnedSnapshot :
    AccessPolicy.Reranked doubtfulSnapshot.access turnedSnapshot.access ∧
      ((cautious.withResolution .firstMatch).decideAccess doubtfulSnapshot .empty).verdict =
        .allow ∧
      ((cautious.withResolution .denyOverrides).decideAccess doubtfulSnapshot .empty).verdict =
        ((cautious.withResolution .denyOverrides).decideAccess turnedSnapshot .empty).verdict ∧
      (cautious.withResolution .denyOverrides).decideAccess turnedSnapshot .empty =
        (cautious.withResolution .firstMatch).decideAccess turnedSnapshot .empty := by
  have hreranked : AccessPolicy.Reranked doubtfulSnapshot.access turnedSnapshot.access := by
    decide +kernel
  obtain ⟨hoverrides, -, hsame, -⟩ := overrides_and_sameVerdicts cautious
  have hverdicts := hsame _ _ hreranked (.refl _)
  exact ⟨hreranked, by decide +kernel, hverdicts.decideAccess .empty,
    (hoverrides turnedSnapshot .empty).denies (by decide +kernel) (by decide +kernel)⟩

end Engine

end ZeroTrust
