/-
  `Proofs.Evaluation.Withholding` — who tells less is matched less.

  Some facts extend others when they tell all that those tell and perhaps more
  (`Facts.ExtendedBy`): a user, a device, an address or a country that was missing,
  more groups of the same user, the management of the device.

  Every query asks for something to be there, none for something to be missing, so a
  query that holds keeps holding when more is told (`Query.holds_of_extendedBy`).
  Whether a condition has a query at all is not up to the facts. So the value of a
  leaf moves from false to true or stays, and both connectives are monotone in the
  order false, unknown, true (`Truth.rank`). That order is the one of truth values
  with the unknown taken for false, and for true (`Truth.rank_le_iff`), and in both
  readings trees of one shape are compared leaf by leaf (`Tree.holds_of_alike`).

  A condition about something that the facts lack is false, or is unknown whatever
  they tell (`Condition.evaluate_of_lacks`).
-/
import ZeroTrust.Proofs.Evaluation.Boolean

namespace ZeroTrust

/-! ### The order of truth values -/

namespace Truth

/-- The place of a value in the order false, unknown, true. All faults stand in one place. -/
def rank : Truth → Nat
  | no => 0
  | unknown _ => 1
  | yes => 2

/-- A value is at most another when that is so with the unknown taken for either constant. -/
theorem rank_le_iff (u v : Truth) :
    u.rank ≤ v.rank ↔ ∀ b, u.assume b = true → v.assume b = true := by
  rw [Bool.forall_bool]
  cases u <;> cases v <;> simp [rank, assume]

end Truth

/-! ### Facts that tell more -/

/-- Whether a user is another one of whom perhaps fewer groups are told. -/
structure Identity.ExtendedBy (u u' : Identity) : Prop where
  email : u'.email = u.email
  groups : ∀ group, u.groups.contains group = true → u'.groups.contains group = true

/-- Whether a device is another one of which perhaps less is told. -/
structure Device.ExtendedBy (d d' : Device) : Prop where
  os : Option.le (· = ·) d.os d'.os
  managed : d.managed = true → d'.managed = true

/-- Whether some facts are others of which perhaps something is withheld. Of a request only what
conditions read is compared: neither its destination nor the country that it names itself. -/
structure Facts.ExtendedBy (facts facts' : Facts) : Prop where
  user : Option.le Identity.ExtendedBy facts.request.user facts'.request.user
  device : Option.le Device.ExtendedBy facts.request.device facts'.request.device
  sourceIp : Option.le (· = ·) facts.request.sourceIp facts'.request.sourceIp
  country : Option.le (· = ·) facts.country facts'.country
  vacuousOr : facts'.vacuousOr = facts.vacuousOr

section Options

variable {α : Type} {R : α → α → Prop} {o o' : Option α}

/-- What holds of a value that is there holds of what extends it. -/
theorem any_of_optionLe {p : α → Bool} (h : Option.le R o o')
    (himp : ∀ a a', R a a' → p a = true → p a' = true) (ho : o.any p = true) :
    o'.any p = true := by
  cases o with
  | none => exact absurd ho Bool.false_ne_true
  | some a =>
    cases o' with
    | none => exact absurd h id
    | some a' => exact himp a a' h ho

/-- A value that is there and that only itself extends stays. -/
theorem eq_some_of_optionLe {a : α} (h : Option.le (· = ·) o o') (ho : o = some a) :
    o' = some a := by
  subst ho
  cases o' with
  | none => exact absurd h id
  | some a' => exact congrArg some (Eq.symm h)

theorem any_of_optionLe_eq {p : α → Bool} (h : Option.le (· = ·) o o') (ho : o.any p = true) :
    o'.any p = true := by
  apply any_of_optionLe h _ ho
  rintro a _ rfl hp
  exact hp

end Options

variable {facts facts' : Facts}

theorem Facts.ExtendedBy.any_sourceIpv4 (h : facts.ExtendedBy facts') {p : Net.Ipv4 → Bool}
    (hp : facts.request.sourceIpv4.any p = true) : facts'.request.sourceIpv4.any p = true := by
  rw [Request.sourceIpv4, Option.any_bind] at hp ⊢
  exact any_of_optionLe_eq h.sourceIp hp

/-- **A query that holds keeps holding when more is told.** -/
theorem Query.holds_of_extendedBy (h : facts.ExtendedBy facts') (q : Query)
    (hq : q.holds facts = true) : q.holds facts' = true := by
  cases q with
  | inGroup group => exact any_of_optionLe h.user (fun u u' hu => hu.groups group) hq
  | hasEmail email =>
    refine any_of_optionLe h.user (fun u u' hu hp => ?_) hq
    rw [hu.email]
    exact hp
  | inDomain domain =>
    refine any_of_optionLe h.user (fun u u' hu hp => ?_) hq
    rw [hu.email]
    exact hp
  | fromNetwork net => exact h.any_sourceIpv4 hq
  | fromCountry code => exact any_of_optionLe_eq h.country hq
  | fromPrivateNetwork => exact h.any_sourceIpv4 hq
  | runs os =>
    -- A device that tells its system goes on telling the same one.
    refine any_of_optionLe h.device (fun d d' hd hp => ?_) hq
    have hos : d.os = some os := beq_iff_eq.1 hp
    exact beq_iff_eq.2 (eq_some_of_optionLe hd.os hos)
  | isManaged => exact any_of_optionLe h.device (fun d d' hd => hd.managed) hq

/-! ### Facts that are missing -/

/-- Whether some facts tell nothing of a field. -/
def Facts.lacks (facts : Facts) : Field → Bool
  | .group | .email => facts.request.user.isNone
  | .ip => facts.request.sourceIp.isNone
  | .country => facts.country.isNone
  | .os => (facts.request.device.bind Device.os).isNone
  | .managed => facts.request.device.isNone

/-- The field that a query reads. -/
def Query.field : Query → Field
  | inGroup _ => .group
  | hasEmail _ | inDomain _ => .email
  | fromNetwork _ | fromPrivateNetwork => .ip
  | fromCountry _ => .country
  | runs _ => .os
  | isManaged => .managed

/-- A query does not hold of facts that tell nothing of its field. -/
theorem Query.not_holds_of_lacks (q : Query) (h : facts.lacks q.field = true) :
    q.holds facts = false := by
  cases q with
  | inGroup group | hasEmail email | inDomain domain =>
    have huser : facts.request.user = none := Option.isNone_iff_eq_none.1 h
    simp [holds, huser]
  | fromNetwork net | fromPrivateNetwork =>
    have haddress : facts.request.sourceIp = none := Option.isNone_iff_eq_none.1 h
    simp [holds, Request.sourceIpv4, haddress]
  | fromCountry code =>
    have hcountry : facts.country = none := Option.isNone_iff_eq_none.1 h
    simp [holds, hcountry]
  | runs os =>
    have hos : facts.request.device.bind Device.os = none := Option.isNone_iff_eq_none.1 h
    -- The system is missing with its device, or alone.
    cases hdevice : facts.request.device with
    | none => simp [holds, hdevice]
    | some d =>
      rw [hdevice, Option.bind_some] at hos
      simp [holds, hdevice, hos]
  | isManaged =>
    have hdevice : facts.request.device = none := Option.isNone_iff_eq_none.1 h
    simp [holds, hdevice]

namespace Condition

/-- The query of a condition reads the field of its operator. -/
theorem field_of_query {c : Condition} {q : Query} (h : c.query = .ok q) :
    q.field = c.op.field := by
  unfold query at h
  split at h
  case isTrue => cases h
  case isFalse =>
    cases hop : c.op with
    | isPrivate | managed =>
      simp only [hop] at h
      cases h
      rfl
    | inGroup | is | emailSuffix | cidr | country | os =>
      -- Each of these reads the value first, and a fault in it is no query.
      simp only [hop] at h
      split at h <;> cases h
      rfl

/-- Whether a condition is unknown, and for which fault, is not up to the facts. -/
theorem evaluate_eq_unknown_congr (c : Condition) (facts facts' : Facts) (fault : Fault) :
    c.evaluate facts = .unknown fault ↔ c.evaluate facts' = .unknown fault := by
  rw [evaluate_eq_unknown_iff, evaluate_eq_unknown_iff]

/-- A condition about what the facts lack is false, or it is unknown whatever they tell. -/
theorem evaluate_of_lacks {c : Condition} (h : facts.lacks c.op.field = true) :
    c.evaluate facts = .no ∨ ∃ fault, ∀ facts', c.evaluate facts' = .unknown fault := by
  cases hquery : c.query with
  | error fault =>
    exact .inr ⟨fault, fun facts' => (c.evaluate_eq_unknown_iff facts' fault).2 hquery⟩
  | ok q =>
    -- What is asked is asked of the field that is missing.
    have hholds : q.holds facts = false := by
      apply Query.not_holds_of_lacks
      rw [field_of_query hquery]
      exact h
    refine .inl ?_
    rw [evaluate, hquery]
    show Truth.ofBool (q.holds facts) = .no
    rw [hholds]
    rfl

/-- With the unknown taken for a constant, a condition that holds keeps holding when more is
told. -/
theorem assume_evaluate_of_extendedBy (h : facts.ExtendedBy facts') (c : Condition) (b : Bool)
    (hc : (c.evaluate facts).assume b = true) : (c.evaluate facts').assume b = true := by
  unfold evaluate at hc ⊢
  cases hquery : c.query with
  | error fault =>
    rw [hquery] at hc
    exact hc
  | ok q =>
    rw [hquery] at hc
    simp only [Truth.assume_ofBool] at hc ⊢
    exact q.holds_of_extendedBy h hc

end Condition

/-! ### Trees -/

namespace Tree

theorem rank_evaluate_le (h : facts.ExtendedBy facts') (t : Tree) :
    (t.evaluate facts).rank ≤ (t.evaluate facts').rank := by
  -- The order of the values is that of the two-valued readings, and those are monotone.
  rw [Truth.rank_le_iff]
  intro b
  rw [assume_evaluate, assume_evaluate, h.vacuousOr]
  apply holds_of_alike (R := Eq)
  · rintro c _ rfl
    exact c.assume_evaluate_of_extendedBy h b
  · exact alike_refl (fun _ => rfl) t

/-- **Withholding a fact never makes a tree match.** Of facts that tell more, a tree has at least
the value that it has of those that tell less, in the order false, unknown, true. Whether a leaf is
unknown is not up to the facts at all, and nor is its fault. A leaf about what the facts lack is
false, unless it is unknown whatever they tell, and a tree is unknown only for a leaf that is
unknown whatever they tell. -/
theorem rank_evaluate_le_of_extendedBy (h : facts.ExtendedBy facts') (t : Tree) :
    (t.evaluate facts).rank ≤ (t.evaluate facts').rank ∧
      (∀ (c : Condition) (known known' : Facts) (fault : Fault),
        c.evaluate known = .unknown fault ↔ c.evaluate known' = .unknown fault) ∧
      (∀ (c : Condition) (known : Facts), known.lacks c.op.field = true →
        c.evaluate known = .no ∨ ∃ fault, ∀ known', c.evaluate known' = .unknown fault) ∧
      ∀ (known : Facts) (fault : Fault), t.evaluate known = .unknown fault →
        ∃ c ∈ t.conditions, ∀ known', c.evaluate known' = .unknown fault := by
  refine ⟨rank_evaluate_le h t, Condition.evaluate_eq_unknown_congr,
    fun c known => Condition.evaluate_of_lacks, fun known fault hunknown => ?_⟩
  obtain ⟨c, hc, hquery⟩ := exists_query_eq_error hunknown
  exact ⟨c, hc, fun known' => (c.evaluate_eq_unknown_iff known' fault).2 hquery⟩

/-- A managed device of an engineer, or an address of a network that cannot be read. -/
def engineersOrNetwork : Tree :=
  .branch .or [
    .branch .and [
      .leaf (.ofOp .inGroup "eng"), .leaf (.ofOp .managed ""), .leaf (.ofOp .os "linux")],
    .leaf (.ofOp .cidr "10.0.0.300/8")]

/-- What is told of a request at first: the user with one group, and a device. -/
def toldAtFirst : Facts :=
  ⟨{ Request.empty with
      user := some ⟨"ann@example.com", .ofList ["staff"]⟩
      device := some ⟨none, false⟩ }, none, false⟩

/-- What is told of it in the end: also another group, the system and the management of the device,
the address and the country. -/
def toldInTheEnd : Facts :=
  ⟨{ Request.empty with
      user := some ⟨"ann@example.com", .ofList ["eng", "staff"]⟩
      device := some ⟨some .linux, true⟩
      sourceIp := some (.v4 ⟨0x0A000001⟩) }, some "DE", false⟩

theorem extendedBy_toldInTheEnd : toldAtFirst.ExtendedBy toldInTheEnd where
  user := by
    refine ⟨rfl, fun group hgroup => ?_⟩
    rw [NameSet.contains_ofList] at hgroup ⊢
    exact List.mem_cons_of_mem _ hgroup
  device := ⟨trivial, fun h => absurd h Bool.false_ne_true⟩
  sourceIp := trivial
  country := trivial
  vacuousOr := rfl

/-- The tree is unknown at first, for the network, and true in the end. The leaf about the system is
false while the device tells none. -/
theorem rank_evaluate_le_of_extendedBy_engineers :
    toldAtFirst.ExtendedBy toldInTheEnd ∧
      engineersOrNetwork.evaluate toldAtFirst = .unknown (.notCidr "10.0.0.300/8") ∧
      engineersOrNetwork.evaluate toldInTheEnd = .yes ∧
      (engineersOrNetwork.evaluate toldAtFirst).rank ≤
        (engineersOrNetwork.evaluate toldInTheEnd).rank ∧
      toldAtFirst.lacks Op.os.field = true ∧
      (Condition.ofOp .os "linux").evaluate toldAtFirst = .no ∧
      ∃ c ∈ engineersOrNetwork.conditions,
        ∀ known, c.evaluate known = .unknown (.notCidr "10.0.0.300/8") := by
  obtain ⟨hrank, -, hlacks, htree⟩ :=
    rank_evaluate_le_of_extendedBy extendedBy_toldInTheEnd engineersOrNetwork
  have hfirst : engineersOrNetwork.evaluate toldAtFirst = .unknown (.notCidr "10.0.0.300/8") := by
    decide +kernel
  have hend : (Condition.ofOp .os "linux").evaluate toldInTheEnd = .yes := by decide +kernel
  have hsystem : (Condition.ofOp .os "linux").evaluate toldAtFirst = .no := by
    rcases hlacks (.ofOp .os "linux") toldAtFirst rfl with hno | ⟨fault, hunknown⟩
    · exact hno
    · rw [hunknown toldInTheEnd] at hend
      cases hend
  exact ⟨extendedBy_toldInTheEnd, hfirst, by decide +kernel, hrank, rfl, hsystem,
    htree toldAtFirst _ hfirst⟩

end Tree

end ZeroTrust
