/-
  `Proofs.Engine.Deciding` — which policy decides, and what the trace tells.

  A visit applies when its policy matched, or is indeterminate and denies
  (`Visit.applies`). What a decision on a list of visits has to be is said in
  `Settles`, by where in the list the deciding visit stands: with the first match
  deciding, no visit before it applies, and the trace ends with it; with denials
  overriding, either no denial before it applies and it denies, or it is the first
  that applies and no denial does, and then the trace goes on to the end. Where no
  visit applies the default decides.

  Each of the two loops is followed through a list of that form (`ofFirst_append_cons`,
  `ofDenials_append_cons`, `ofDenials_of_allowance`), and every list has one of the
  forms (`exists_settles`). So the decision is settled, and nothing else is
  (`settles_iff`); it names the policy that decides and gives the verdict of that
  policy (`exists_visit_of_policyId`).
-/
import ZeroTrust.Proofs.Engine.Applying

namespace ZeroTrust

/-! ### Reasons -/

/-- The reason that is given when a visit decides. -/
def Visit.reason (family : String) (v : Visit) : String :=
  match v.outcome with
  | .indeterminate why =>
    s!"{family} policy '{v.name}' could not be evaluated; failing closed: {why}"
  | _ => s!"matched {family} policy '{v.name}' (priority {v.priority.toInt})"

theorem Visit.applies?_eq (family : String) (v : Visit) :
    v.applies? family = if v.applies then some (v.reason family) else none := by
  obtain ⟨id, name, priority, verdict, outcome⟩ := v
  cases outcome <;> cases verdict <;> rfl

theorem Visit.applies?_of_applies (family : String) {v : Visit} (h : v.applies = true) :
    v.applies? family = some (v.reason family) := by
  rw [applies?_eq, h, if_pos rfl]

theorem Visit.applies?_of_not_applies (family : String) {v : Visit} (h : v.applies = false) :
    v.applies? family = none := by
  rw [applies?_eq, h, if_neg Bool.false_ne_true]

/-- What a visit applies for: its policy matched, or is indeterminate and denies. -/
theorem Visit.applies_eq_true_iff (v : Visit) :
    v.applies = true ↔
      v.outcome = .matched ∨ (∃ why, v.outcome = .indeterminate why) ∧ v.verdict = .deny := by
  obtain ⟨id, name, priority, verdict, outcome⟩ := v
  rw [applies]
  cases outcome <;> cases verdict <;> simp

namespace Decision

/-! ### What a decision has to be -/

variable (family : String) (default : Verdict)

/-- The decision of a visit, with the trace of some visits. -/
def byPolicy (v : Visit) (visited : List Visit) : Decision :=
  ⟨v.verdict, some v.id, some v.name, v.reason family, visited.map Visit.entry⟩

/-- The decision of the default, with the trace of some visits. -/
def byNone (visited : List Visit) : Decision :=
  ⟨default, none, none, s!"no {family} policy matched; default {default.name}",
    visited.map Visit.entry⟩

/-- Whether a decision is the one that a list of visits settles. -/
inductive Settles : Resolution → List Visit → Decision → Prop
  /-- The first visit that applies decides, and is the last of the trace. -/
  | firstMatch {front back : List Visit} {v : Visit} (hfront : ∀ u ∈ front, u.applies = false)
    (hv : v.applies = true) :
    Settles .firstMatch (front ++ v :: back) (byPolicy family v (front ++ [v]))
  /-- The first visit that applies and denies decides, and is the last of the trace. -/
  | denial {front back : List Visit} {v : Visit}
    (hfront : ∀ u ∈ front, u.applies = true → u.verdict = .allow) (hv : v.applies = true)
    (hdeny : v.verdict = .deny) :
    Settles .denyOverrides (front ++ v :: back) (byPolicy family v (front ++ [v]))
  /-- Where no visit applies and denies, the first that applies decides; all are in the trace. -/
  | allowance {front back : List Visit} {v : Visit} (hfront : ∀ u ∈ front, u.applies = false)
    (hv : v.applies = true) (hallow : ∀ u ∈ v :: back, u.applies = true → u.verdict = .allow) :
    Settles .denyOverrides (front ++ v :: back) (byPolicy family v (front ++ v :: back))
  /-- Where no visit applies the default decides, and all are in the trace. -/
  | none {resolution : Resolution} {visits : List Visit} (h : ∀ u ∈ visits, u.applies = false) :
    Settles resolution visits (byNone family default visits)

/-- Some visit is the first of its sort, unless there is none. -/
theorem forall_or_exists_first (p : Visit → Bool) (visits : List Visit) :
    (∀ v ∈ visits, p v = false) ∨ ∃ front v back, visits = front ++ v :: back ∧
      (∀ u ∈ front, p u = false) ∧ p v = true := by
  cases hfind : visits.find? p with
  | none => exact .inl fun v hv => by simpa using List.find?_eq_none.1 hfind v hv
  | some v =>
    obtain ⟨hv, front, back, heq, hfront⟩ := List.find?_eq_some_iff_append.1 hfind
    exact .inr ⟨front, v, back, heq, fun u hu => by simpa using hfront u hu, hv⟩

theorem verdict_eq_allow_of_not_denies {v : Visit} (hv : denies v = false)
    (happlies : v.applies = true) : v.verdict = .allow := by
  rw [denies, happlies, Bool.true_and] at hv
  cases hverdict : v.verdict with
  | allow => rfl
  | deny =>
    rw [hverdict] at hv
    cases hv

/-- Every list of visits settles some decision. -/
theorem exists_settles (resolution : Resolution) (visits : List Visit) :
    ∃ d, Settles family default resolution visits d := by
  -- The default decides where no visit applies, under either resolution.
  rcases forall_or_exists_first Visit.applies visits with
    hnone | ⟨front, v, back, rfl, hfront, hv⟩
  · exact ⟨_, .none hnone⟩
  cases resolution with
  | firstMatch => exact ⟨_, .firstMatch hfront hv⟩
  | denyOverrides =>
    -- A denial may stand anywhere, also at the first visit that applies.
    rcases forall_or_exists_first denies (front ++ v :: back) with
      hnone | ⟨front', v', back', heq, hfront', hv'⟩
    · refine ⟨_, .allowance hfront hv fun u hu => ?_⟩
      exact verdict_eq_allow_of_not_denies (hnone u (List.mem_append_right _ hu))
    · rw [denies, Bool.and_eq_true, beq_iff_eq] at hv'
      rw [heq]
      exact ⟨_, .denial (fun u hu => verdict_eq_allow_of_not_denies (hfront' u hu)) hv'.1 hv'.2⟩

/-! ### The first match decides -/

variable {family default}

theorem ofFirst_of_none {visits : List Visit} (h : ∀ u ∈ visits, u.applies = false) :
    ofFirst family default visits = byNone family default visits := by
  induction visits with
  | nil => rfl
  | cons u visits ih =>
    rw [ofFirst, u.applies?_of_not_applies family (h u List.mem_cons_self)]
    show (ofFirst family default visits).after u = _
    rw [ih fun w hw => h w (List.mem_cons_of_mem _ hw)]
    rfl

theorem ofFirst_append_cons {front : List Visit} (hfront : ∀ u ∈ front, u.applies = false)
    {v : Visit} (hv : v.applies = true) (back : List Visit) :
    ofFirst family default (front ++ v :: back) = byPolicy family v (front ++ [v]) := by
  induction front with
  | nil =>
    rw [List.nil_append, ofFirst, v.applies?_of_applies family hv]
    rfl
  | cons u front ih =>
    rw [List.cons_append, ofFirst,
      u.applies?_of_not_applies family (hfront u List.mem_cons_self)]
    show (ofFirst family default (front ++ v :: back)).after u = _
    rw [ih fun w hw => hfront w (List.mem_cons_of_mem _ hw)]
    rfl

/-! ### Denials override -/

/-- A visit that does not deny only makes the trace longer, once an allowance is kept. -/
theorem ofDenials_some_cons (kept : Visit × String) {u : Visit} (visits : List Visit)
    (hu : u.applies = true → u.verdict = .allow) :
    ofDenials family default (some kept) (u :: visits) =
      (ofDenials family default (some kept) visits).after u := by
  rw [ofDenials]
  cases happlies : u.applies with
  | false => rw [u.applies?_of_not_applies family happlies]
  | true =>
    rw [u.applies?_of_applies family happlies]
    simp [hu happlies]

/-- The allowance that is kept decides when no denial follows. -/
theorem ofDenials_some_of_allowing (v : Visit) {visits : List Visit}
    (h : ∀ u ∈ visits, u.applies = true → u.verdict = .allow) :
    ofDenials family default (some (v, v.reason family)) visits = byPolicy family v visits := by
  induction visits with
  | nil => rfl
  | cons u visits ih =>
    rw [ofDenials_some_cons _ _ (h u List.mem_cons_self),
      ih fun w hw => h w (List.mem_cons_of_mem _ hw)]
    rfl

/-- A visit that does not apply only makes the trace longer. -/
theorem ofDenials_cons_of_not_applies (allowed : Option (Visit × String)) {u : Visit}
    (hu : u.applies = false) (visits : List Visit) :
    ofDenials family default allowed (u :: visits) =
      (ofDenials family default allowed visits).after u := by
  rw [ofDenials, u.applies?_of_not_applies family hu]

theorem ofDenials_of_none {visits : List Visit} (h : ∀ u ∈ visits, u.applies = false) :
    ofDenials family default none visits = byNone family default visits := by
  induction visits with
  | nil => rfl
  | cons u visits ih =>
    rw [ofDenials_cons_of_not_applies none (h u List.mem_cons_self),
      ih fun w hw => h w (List.mem_cons_of_mem _ hw)]
    rfl

theorem ofDenials_of_allowance {front : List Visit} (hfront : ∀ u ∈ front, u.applies = false)
    {v : Visit} (hv : v.applies = true) {back : List Visit}
    (hallow : ∀ u ∈ v :: back, u.applies = true → u.verdict = .allow) :
    ofDenials family default none (front ++ v :: back) =
      byPolicy family v (front ++ v :: back) := by
  -- The allowance is not kept until the front is through.
  induction front with
  | nil =>
    have hverdict : v.verdict = .allow := hallow v List.mem_cons_self hv
    rw [List.nil_append, ofDenials, v.applies?_of_applies family hv]
    simp only [hverdict, reduceCtorEq, if_false]
    show (ofDenials family default (some (v, v.reason family)) back).after v = _
    rw [ofDenials_some_of_allowing v fun u hu => hallow u (List.mem_cons_of_mem _ hu)]
    rfl
  | cons u front ih =>
    rw [List.cons_append, ofDenials_cons_of_not_applies none (hfront u List.mem_cons_self),
      ih fun w hw => hfront w (List.mem_cons_of_mem _ hw)]
    rfl

/-- The first denial decides, whatever allowance was kept before it. -/
theorem ofDenials_append_cons (allowed : Option (Visit × String)) {front : List Visit}
    (hfront : ∀ u ∈ front, u.applies = true → u.verdict = .allow) {v : Visit}
    (hv : v.applies = true) (hdeny : v.verdict = .deny) (back : List Visit) :
    ofDenials family default allowed (front ++ v :: back) = byPolicy family v (front ++ [v]) := by
  -- An allowing visit of the front may come to be kept, so nothing is said of what is kept.
  induction front generalizing allowed with
  | nil =>
    rw [List.nil_append, ofDenials, v.applies?_of_applies family hv]
    simp only [hdeny, if_true]
    rfl
  | cons u front ih =>
    have hrest : ∀ allowed', ofDenials family default allowed' (front ++ v :: back) =
        byPolicy family v (front ++ [v]) :=
      fun allowed' => ih allowed' fun w hw => hfront w (List.mem_cons_of_mem _ hw)
    rw [List.cons_append]
    cases happlies : u.applies with
    | false =>
      rw [ofDenials_cons_of_not_applies allowed happlies, hrest]
      rfl
    | true =>
      have hverdict : u.verdict = .allow := hfront u List.mem_cons_self happlies
      rw [ofDenials, u.applies?_of_applies family happlies]
      simp only [hverdict, reduceCtorEq, if_false, hrest]
      rfl

/-! ### Settled decisions -/

theorem eq_ofVisits_of_settles {resolution : Resolution} {visits : List Visit} {d : Decision}
    (h : Settles family default resolution visits d) :
    d = ofVisits resolution family default visits := by
  cases h with
  | firstMatch hfront hv => exact (ofFirst_append_cons hfront hv _).symm
  | denial hfront hv hdeny => exact (ofDenials_append_cons none hfront hv hdeny _).symm
  | allowance hfront hv hallow => exact (ofDenials_of_allowance hfront hv hallow).symm
  | none h =>
    cases resolution with
    | firstMatch => exact (ofFirst_of_none h).symm
    | denyOverrides => exact (ofDenials_of_none h).symm

/-- **A list of visits settles the decision that is made of it, and no other.** -/
theorem settles_iff {resolution : Resolution} {visits : List Visit} {d : Decision} :
    Settles family default resolution visits d ↔
      d = ofVisits resolution family default visits := by
  -- Some decision is settled, and as each settled one is that of the loop, it is this one.
  refine ⟨eq_ofVisits_of_settles, ?_⟩
  rintro rfl
  obtain ⟨d, hd⟩ := exists_settles family default resolution visits
  rwa [← eq_ofVisits_of_settles hd]

/-- The policy that a decision names was visited, applies, and has the verdict of the decision. -/
theorem exists_visit_of_policyId {resolution : Resolution} {visits : List Visit} {d : Decision}
    (h : Settles family default resolution visits d) {id : String} (hid : d.policyId = some id) :
    ∃ v ∈ visits, v.id = id ∧ d.policyName = some v.name ∧ d.verdict = v.verdict ∧
      v.applies = true := by
  cases h with
  | firstMatch hfront hv => exact ⟨_, by simp, Option.some.inj hid, rfl, rfl, hv⟩
  | denial hfront hv hdeny => exact ⟨_, by simp, Option.some.inj hid, rfl, rfl, hv⟩
  | allowance hfront hv hallow => exact ⟨_, by simp, Option.some.inj hid, rfl, rfl, hv⟩
  | none h => cases hid

end Decision

/-! ### Requests -/

theorem Effect.verdict_eq_deny_iff (effect : Effect) : effect.verdict = .deny ↔ effect = .deny := by
  rw [← beq_iff_eq, verdict_beq_deny, beq_iff_eq]

theorem SignInPolicy.verdict_eq_deny_iff (p : SignInPolicy) :
    p.verdict = .deny ↔ p.block = true := by
  rw [← beq_iff_eq, verdict_beq_deny]

namespace Engine

theorem settles_decideAccess (e : Engine) (s : Snapshot) (r : Request) :
    Decision.Settles "access" e.settings.accessDefault e.settings.resolution (e.accessVisits s r)
      (e.decideAccess s r) :=
  Decision.settles_iff.2 rfl

theorem settles_decideSignIn (e : Engine) (s : Snapshot) (stage : Stage) (r : Request) :
    Decision.Settles "sign-in" e.settings.signInDefault e.settings.resolution
      (e.signInVisits s stage r) (e.decideSignIn s stage r) :=
  Decision.settles_iff.2 rfl

theorem exists_policy_of_decideAccess (e : Engine) (s : Snapshot) (r : Request) {id : String}
    (hid : (e.decideAccess s r).policyId = some id) :
    ∃ p ∈ s.access, p.id = id ∧ (e.decideAccess s r).policyName = some p.name ∧
      (e.decideAccess s r).verdict = p.effect.verdict ∧
      (e.accessOutcome (e.facts r) p = .matched ∨
        (∃ why, e.accessOutcome (e.facts r) p = .indeterminate why) ∧ p.effect = .deny) := by
  obtain ⟨v, hv, hvid, hname, hverdict, happlies⟩ :=
    Decision.exists_visit_of_policyId (e.settles_decideAccess s r) hid
  obtain ⟨p, hp, rfl⟩ := List.mem_map.1 hv
  have houtcome := (e.visitAccess (e.facts r) p).applies_eq_true_iff.1 happlies
  exact ⟨p, hp, hvid, hname, hverdict,
    houtcome.imp_right fun h => ⟨h.1, p.effect.verdict_eq_deny_iff.1 h.2⟩⟩

theorem exists_policy_of_decideSignIn (e : Engine) (s : Snapshot) (stage : Stage) (r : Request)
    {id : String} (hid : (e.decideSignIn s stage r).policyId = some id) :
    ∃ p ∈ s.signIn, p.stage = stage ∧ p.id = id ∧
      (e.decideSignIn s stage r).policyName = some p.name ∧
      (e.decideSignIn s stage r).verdict = p.verdict ∧
      (signInOutcome (e.facts r) p = .matched ∨
        (∃ why, signInOutcome (e.facts r) p = .indeterminate why) ∧ p.block = true) := by
  obtain ⟨v, hv, hvid, hname, hverdict, happlies⟩ :=
    Decision.exists_visit_of_policyId (e.settles_decideSignIn s stage r) hid
  obtain ⟨p, hp, rfl⟩ := List.mem_map.1 hv
  rw [List.mem_filter, beq_iff_eq] at hp
  have houtcome := (visitSignIn (e.facts r) p).applies_eq_true_iff.1 happlies
  exact ⟨p, hp.1, hp.2, hvid, hname, hverdict,
    houtcome.imp_right fun h => ⟨h.1, p.verdict_eq_deny_iff.1 h.2⟩⟩

/-- **The decision is the one that the consulted policies settle**, each with its outcome for the
request alone: the right policy decides, with the verdict of its own effect, and the trace tells
what became of the policies up to the last one that counts. A policy that did not match, does not
apply, was rejected, or allows and is indeterminate does not decide. -/
theorem decide_iff_settles (e : Engine) (s : Snapshot) :
    (∀ r d, d = e.decideAccess s r ↔
      Decision.Settles "access" e.settings.accessDefault e.settings.resolution
        (s.access.map fun p =>
          ⟨p.id, p.name, p.priority, p.effect.verdict, e.accessOutcome (e.facts r) p⟩) d) ∧
    (∀ stage r d, d = e.decideSignIn s stage r ↔
      Decision.Settles "sign-in" e.settings.signInDefault e.settings.resolution
        ((s.signIn.filter fun p => p.stage == stage).map fun p =>
          ⟨p.id, p.name, p.priority, p.verdict, signInOutcome (e.facts r) p⟩) d) ∧
    (∀ r id, (e.decideAccess s r).policyId = some id →
      ∃ p ∈ s.access, p.id = id ∧ (e.decideAccess s r).policyName = some p.name ∧
        (e.decideAccess s r).verdict = p.effect.verdict ∧
        (e.accessOutcome (e.facts r) p = .matched ∨
          (∃ why, e.accessOutcome (e.facts r) p = .indeterminate why) ∧ p.effect = .deny)) ∧
    ∀ stage r id, (e.decideSignIn s stage r).policyId = some id →
      ∃ p ∈ s.signIn, p.stage = stage ∧ p.id = id ∧
        (e.decideSignIn s stage r).policyName = some p.name ∧
        (e.decideSignIn s stage r).verdict = p.verdict ∧
        (signInOutcome (e.facts r) p = .matched ∨
          (∃ why, signInOutcome (e.facts r) p = .indeterminate why) ∧ p.block = true) :=
  ⟨fun _ _ => Decision.settles_iff.symm, fun _ _ _ => Decision.settles_iff.symm,
    fun r _ => e.exists_policy_of_decideAccess s r,
    fun stage r _ => e.exists_policy_of_decideSignIn s stage r⟩

/-! ### A snapshot in doubt -/

/-- An engine in which denials override. -/
def cautious : Engine where
  settings := { Settings.default with resolution := .denyOverrides }
  resolve _ := none
  locate _ := none

/-- An allowance and a denial with values that nobody can read, around an allowance that matches.
One sign-in policy asks what is not known before authentication. -/
def doubtfulSnapshot : Snapshot where
  access := [
    { AccessPolicy.new "guests" 10 with
      id := "a1"
      root := .leaf (.ofOp .cidr "192.0.2.0/33") },
    { AccessPolicy.new "staff" 20 with id := "a2" },
    { AccessPolicy.new "abuse" 30 with
      id := "a3"
      effect := .deny
      root := .leaf (.ofOp .country "Home") },
    { AccessPolicy.new "rest" 40 with
      id := "a4"
      effect := .deny }]
  signIn := [
    { SignInPolicy.new "members" 10 .preAuth with
      id := "s1"
      root := .leaf (.ofOp .is "ann@example.com") },
    { SignInPolicy.new "door" 20 .preAuth with
      id := "s2"
      block := true }]

/-- The denial in doubt decides, and the last policy is not consulted. Before authentication the
rejected policy is passed over. -/
theorem decide_iff_settles_doubtfulSnapshot :
    (cautious.decideAccess doubtfulSnapshot .empty).policyId = some "a3" ∧
      (cautious.decideAccess doubtfulSnapshot .empty).trace.length = 3 ∧
      (∃ p ∈ doubtfulSnapshot.access, p.id = "a3" ∧
        (cautious.decideAccess doubtfulSnapshot .empty).verdict = p.effect.verdict) ∧
      (cautious.decideSignIn doubtfulSnapshot .preAuth .empty).policyId = some "s2" ∧
      ∃ p ∈ doubtfulSnapshot.signIn, p.stage = .preAuth ∧ p.id = "s2" ∧
        (cautious.decideSignIn doubtfulSnapshot .preAuth .empty).verdict = p.verdict := by
  have hdenied : (cautious.decideAccess doubtfulSnapshot .empty).policyId = some "a3" := by
    decide +kernel
  have hblocked :
      (cautious.decideSignIn doubtfulSnapshot .preAuth .empty).policyId = some "s2" := by
    decide +kernel
  obtain ⟨-, -, haccess, hsignIn⟩ := decide_iff_settles cautious doubtfulSnapshot
  obtain ⟨p, hp, hpid, -, hpverdict, -⟩ := haccess .empty "a3" hdenied
  obtain ⟨q, hq, hstage, hqid, -, hqverdict, -⟩ := hsignIn .preAuth .empty "s2" hblocked
  exact ⟨hdenied, by decide +kernel, ⟨p, hp, hpid, hpverdict⟩, hblocked,
    q, hq, hstage, hqid, hqverdict⟩

end Engine

end ZeroTrust
