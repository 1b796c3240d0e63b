/-
  `Proofs.Engine.FailClosed` — what cannot be read never opens a door.

  Somebody exchanges values in a snapshot for values that cannot be read: those of
  any conditions, and of any destinations that then cannot be resolved. A policy so
  changed that allows applies at most where it applied before, because its tree has
  to be true; one that denies applies at least where it did, because what is unknown
  counts as a match (`stricter_visitAccess`, `stricter_visitSignIn`). So a request
  that is allowed now was allowed before (`allow_of_corrupted`).
-/
import ZeroTrust.Proofs.Engine.Applying

namespace ZeroTrust

/-! ### Values that cannot be read -/

/-- A condition as another is with its value exchanged for one that cannot be read. -/
def Condition.Corrupted (c d : Condition) : Prop :=
  ∃ value fault, d = { c with value := value } ∧ d.query = .error fault

namespace Tree

/-- A tree as another is with the values of any of its conditions exchanged for ones that cannot be
read. -/
def Corrupted (t t' : Tree) : Prop :=
  Alike (fun c d => d = c ∨ c.Corrupted d) t t'

variable {t t' : Tree} (facts : Facts)

theorem assume_false_of_corrupted (h : Corrupted t t') :
    (t'.evaluate facts).assume false = true → (t.evaluate facts).assume false = true := by
  rw [assume_evaluate, assume_evaluate]
  refine holds_of_alike ?_ (Alike.flip h)
  rintro d c (rfl | ⟨value, fault, -, hquery⟩) hd
  · exact hd
  · -- What is unknown is not taken for a match.
    rw [(d.evaluate_eq_unknown_iff facts fault).2 hquery] at hd
    exact absurd hd Bool.false_ne_true

theorem assume_true_of_corrupted (h : Corrupted t t') :
    (t.evaluate facts).assume true = true → (t'.evaluate facts).assume true = true := by
  rw [assume_evaluate, assume_evaluate]
  refine holds_of_alike ?_ h
  rintro c d (rfl | ⟨value, fault, -, hquery⟩) hc
  · exact hc
  · -- What is unknown is taken for a match.
    rw [(d.evaluate_eq_unknown_iff facts fault).2 hquery]
    rfl

/-- Corruption changes no kind of condition, so it changes no answer that goes by kinds alone. -/
theorem all_kinds_of_corrupted (allows : Kind → Bool) (h : Corrupted t t') :
    (t'.conditions.all fun c => allows c.kind) = t.conditions.all fun c => allows c.kind := by
  have hkind : ∀ c d : Condition, d = c ∨ c.Corrupted d → d.kind = c.kind := by
    rintro c d (rfl | ⟨value, fault, rfl, -⟩)
    · rfl
    · rfl
  -- Alike trees pass a property of conditions on in one direction, so both are needed.
  rw [Bool.eq_iff_iff]
  constructor
  · refine all_conditions_of_alike ?_ (Alike.flip h)
    intro d c hcd hd
    rw [← hkind c d hcd]
    exact hd
  · refine all_conditions_of_alike ?_ h
    intro c d hcd hc
    rw [hkind c d hcd]
    exact hc

end Tree

/-! ### Corrupted policies -/

namespace AccessPolicy

/-- The policy with the value of its destination exchanged. -/
def withDestinationValue (p : AccessPolicy) (value : Option String) : AccessPolicy :=
  match p.destinationKind with
  | .none => p
  | .cidr => { p with destinationCidr := value }
  | .app => { p with destinationApp := value }
  | .sni => { p with destinationSni := value }

/-- A policy as another is with values in its tree exchanged for ones that cannot be read and,
perhaps, that of its destination for one that cannot be resolved. -/
def Corrupted (resolve : String → Option Application) (r : Request) (p p' : AccessPolicy) : Prop :=
  ∃ root, p.root.Corrupted root ∧
    (p' = { p with root := root } ∨
      ∃ value fault, p' = { p.withDestinationValue value with root := root } ∧
        p'.destination.aim resolve r = .unknown fault)

@[simp] theorem effect_withDestinationValue (p : AccessPolicy) (value : Option String) :
    (p.withDestinationValue value).effect = p.effect := by
  rw [withDestinationValue]
  split <;> rfl

@[simp] theorem gateways_withDestinationValue (p : AccessPolicy) (value : Option String) :
    (p.withDestinationValue value).gateways = p.gateways := by
  rw [withDestinationValue]
  split <;> rfl

/-- What of a corrupted policy is as it was, and what may only have become unknown. -/
theorem unchanged_of_corrupted {resolve : String → Option Application} {r : Request}
    {p p' : AccessPolicy} (h : p.Corrupted resolve r p') :
    p'.effect = p.effect ∧ p'.gateways = p.gateways ∧ p.root.Corrupted p'.root ∧
      (p'.destination.aim resolve r = p.destination.aim resolve r ∨
        ∃ fault, p'.destination.aim resolve r = .unknown fault) := by
  obtain ⟨root, hroot, rfl | ⟨value, fault, rfl, hunknown⟩⟩ := h
  · exact ⟨rfl, rfl, hroot, .inl rfl⟩
  · exact ⟨p.effect_withDestinationValue value, p.gateways_withDestinationValue value, hroot,
      .inr ⟨fault, hunknown⟩⟩

end AccessPolicy

/-- A sign-in policy as another is with values in its tree exchanged for ones that cannot be
read. -/
def SignInPolicy.Corrupted (p p' : SignInPolicy) : Prop :=
  ∃ root, p.root.Corrupted root ∧ p' = { p with root := root }

/-- A snapshot as another is with values in its policies exchanged for ones that cannot be read or,
for a request, not be resolved. -/
structure Snapshot.Corrupted (resolve : String → Option Application) (r : Request)
    (s s' : Snapshot) : Prop where
  access : List.Forall₂ (AccessPolicy.Corrupted resolve r) s.access s'.access
  signIn : List.Forall₂ SignInPolicy.Corrupted s.signIn s'.signIn

/-! ### Corruption is strict -/

namespace Engine

/-- Aims and trees that may only have become unknown make the visit stricter. -/
theorem select_stricter {aim aim' : Aim} (matched matched' : Bool → Bool)
    (haim : aim' = aim ∨ ∃ fault, aim' = .unknown fault)
    (hfalse : matched' false = true → matched false = true)
    (htrue : matched true = true → matched' true = true) :
    (aim'.select false (matched' false) = true → aim.select false (matched false) = true) ∧
      (aim.select true (matched true) = true → aim'.select true (matched' true) = true) := by
  rcases haim with rfl | ⟨fault, rfl⟩
  · cases aim' with
    | yes => exact ⟨hfalse, htrue⟩
    | no => exact ⟨id, id⟩
    | unknown fault => exact ⟨id, id⟩
  · -- An unknown aim makes an allowing policy apply to nothing and a denying one to all.
    exact ⟨fun h => absurd h Bool.false_ne_true, fun _ => rfl⟩

theorem stricter_visitAccess (e : Engine) {r : Request} {p p' : AccessPolicy}
    (h : p.Corrupted e.resolve r p') :
    (e.visitAccess (e.facts r) p').Stricter (e.visitAccess (e.facts r) p) := by
  obtain ⟨heffect, hgateways, hroot, haim⟩ := AccessPolicy.unchanged_of_corrupted h
  have hdeployed : p'.deployedTo e.settings.gateway = p.deployedTo e.settings.gateway := by
    rw [AccessPolicy.deployedTo, AccessPolicy.deployedTo, hgateways]
  obtain ⟨hallow, hdeny⟩ := select_stricter (p.root.evaluate (e.facts r)).assume
    (p'.root.evaluate (e.facts r)).assume haim
    (Tree.assume_false_of_corrupted (e.facts r) hroot)
    (Tree.assume_true_of_corrupted (e.facts r) hroot)
  refine ⟨congrArg Effect.verdict heffect, ?_, ?_⟩
  · -- A policy that allows applies only where its tree is true.
    intro hverdict
    have hb : (p.effect == Effect.deny) = false := by
      rw [← Effect.verdict_beq_deny]
      exact beq_eq_false_iff_ne.2 fun hdeny => Verdict.noConfusion (hverdict.symm.trans hdeny)
    rw [applies_visitAccess, applies_visitAccess, hdeployed, heffect, hb,
      Bool.and_eq_true, Bool.and_eq_true]
    exact And.imp_right hallow
  · -- A policy that denies applies wherever its tree is not false.
    intro hverdict
    have hb : (p.effect == Effect.deny) = true := by
      rw [← Effect.verdict_beq_deny]
      exact beq_iff_eq.2 hverdict
    rw [applies_visitAccess, applies_visitAccess, hdeployed, heffect, hb,
      Bool.and_eq_true, Bool.and_eq_true]
    exact And.imp_right hdeny

theorem stricter_visitSignIn (facts : Facts) {p p' : SignInPolicy} (h : p.Corrupted p') :
    (visitSignIn facts p').Stricter (visitSignIn facts p) := by
  obtain ⟨root, hroot, rfl⟩ := h
  have hkinds := Tree.all_kinds_of_corrupted p.stage.allows hroot
  refine ⟨rfl, ?_, ?_⟩
  · intro hverdict
    have hb : p.block = false := by
      rw [← p.verdict_beq_deny]
      exact beq_eq_false_iff_ne.2 fun hdeny => Verdict.noConfusion (hverdict.symm.trans hdeny)
    rw [applies_visitSignIn, applies_visitSignIn, hkinds, hb, Bool.and_eq_true, Bool.and_eq_true]
    exact And.imp_right (Tree.assume_false_of_corrupted facts hroot)
  · intro hverdict
    have hb : p.block = true := by
      rw [← p.verdict_beq_deny]
      exact beq_iff_eq.2 hverdict
    rw [applies_visitSignIn, applies_visitSignIn, hkinds, hb, Bool.and_eq_true, Bool.and_eq_true]
    exact And.imp_right (Tree.assume_true_of_corrupted facts hroot)

/-! ### Decisions -/

variable {s s' : Snapshot} {r : Request}

theorem stricter_accessVisits (e : Engine) (h : s.Corrupted e.resolve r s') :
    List.Forall₂ Visit.Stricter (e.accessVisits s' r) (e.accessVisits s r) := by
  rw [accessVisits, accessVisits, List.forall₂_map_left_iff, List.forall₂_map_right_iff]
  exact h.access.flip.imp fun _ _ hp => e.stricter_visitAccess hp

theorem stricter_signInVisits (e : Engine) (stage : Stage) (h : s.Corrupted e.resolve r s') :
    List.Forall₂ Visit.Stricter (e.signInVisits s' stage r) (e.signInVisits s stage r) := by
  -- The same policies are chosen, as no stage is changed.
  have hstage : ∀ p p' : SignInPolicy, p.Corrupted p' →
      ((p.stage == stage) = true ↔ (p'.stage == stage) = true) := by
    rintro p p' ⟨root, -, rfl⟩
    exact Iff.rfl
  have hfiltered := List.rel_filter hstage h.signIn
  rw [signInVisits, signInVisits, List.forall₂_map_left_iff, List.forall₂_map_right_iff]
  exact hfiltered.flip.imp fun _ _ hp => stricter_visitSignIn (e.facts r) hp

/-- **Enforcement fails closed**: whatever is allowed by a snapshot in which values were exchanged
for ones that cannot be read or resolved is allowed by the snapshot as it was. -/
theorem allow_of_corrupted (e : Engine) (h : s.Corrupted e.resolve r s') :
    ((e.decideAccess s' r).verdict = .allow → (e.decideAccess s r).verdict = .allow) ∧
      ∀ stage, (e.decideSignIn s' stage r).verdict = .allow →
        (e.decideSignIn s stage r).verdict = .allow := by
  constructor
  · exact Decision.verdict_ofVisits_of_stricter _ _ _ (e.stricter_accessVisits h)
  · intro stage
    exact Decision.verdict_ofVisits_of_stricter _ _ _ (e.stricter_signInVisits stage h)

/-! ### A snapshot before and after -/

/-- Three access policies and a sign-in policy, with four of their values left open. -/
def branchOffice (partner archive home mail : String) : Snapshot where
  access := [
    { AccessPolicy.new "partners" 10 with
      effect := .deny
      root := .branch .and [.leaf (.ofOp .cidr partner), .leaf (.ofOp .os "windows")] },
    { AccessPolicy.new "archive" 20 with
      destinationKind := .cidr
      destinationCidr := some archive },
    { AccessPolicy.new "staff" 30 with
      root := .branch .or [.leaf (.ofOp .country home), .leaf (.ofOp .managed "")] }]
  signIn := [
    { SignInPolicy.new "staff" 10 .postAuth with
      root := .branch .or [.leaf (.ofOp .emailSuffix mail), .leaf (.ofOp .managed "")] }]

/-- A managed device that asks for an address inside. -/
def managedRequest : Request :=
  { Request.empty with
    device := some ⟨some .linux, true⟩
    destinationIp := some (.v4 ⟨0x0A010203⟩) }

/-- An engine in which denials override. -/
def overriding : Engine where
  settings := { Settings.default with resolution := .denyOverrides, signInDefault := .deny }
  resolve _ := none
  locate _ := none

/-- A branch of two is corrupted by a fault in the value of its first condition. -/
theorem corrupted_left {o : Connective} {op : Op} {value value' : String} {t : Tree} (fault : Fault)
    (h : (Condition.ofOp op value').query = .error fault) :
    (Tree.branch o [.leaf (.ofOp op value), t]).Corrupted
      (.branch o [.leaf (.ofOp op value'), t]) :=
  .branch (.cons (.leaf (.inr ⟨value', fault, rfl, h⟩))
    (.cons (Tree.alike_refl (fun _ => .inl rfl) t) .nil))

/-- One value of each policy is exchanged for one that cannot be read. -/
theorem corrupted_branchOffice :
    (branchOffice "192.0.2.0/24" "10.1.0.0/16" "DE" "example.com").Corrupted overriding.resolve
      managedRequest (branchOffice "192.0.2.0/33" "10.1" "Home" "@") where
  access :=
    .cons ⟨_, corrupted_left (.notCidr "192.0.2.0/33") (by decide +kernel), .inl rfl⟩ <|
    .cons ⟨_, Tree.alike_refl (fun _ => .inl rfl) _,
      .inr ⟨some "10.1", .notCidr "10.1", rfl, by decide +kernel⟩⟩ <|
    .cons ⟨_, corrupted_left (.unknownCountry "Home") (by decide +kernel), .inl rfl⟩ .nil
  signIn := .cons ⟨_, corrupted_left .emptyDomain (by decide +kernel), rfl⟩ .nil

/-- With one value of each policy spoilt, managed devices are still let in, as they were before. -/
theorem allow_of_corrupted_branchOffice :
    (branchOffice "192.0.2.0/24" "10.1.0.0/16" "DE" "example.com").Corrupted overriding.resolve
        managedRequest (branchOffice "192.0.2.0/33" "10.1" "Home" "@") ∧
      (overriding.decideAccess (branchOffice "192.0.2.0/24" "10.1.0.0/16" "DE" "example.com")
        managedRequest).verdict = .allow ∧
      (overriding.decideSignIn (branchOffice "192.0.2.0/24" "10.1.0.0/16" "DE" "example.com")
        .postAuth managedRequest).verdict = .allow := by
  obtain ⟨haccess, hsignIn⟩ := allow_of_corrupted overriding corrupted_branchOffice
  exact ⟨corrupted_branchOffice, haccess (by decide +kernel),
    hsignIn .postAuth (by decide +kernel)⟩

end Engine

end ZeroTrust
