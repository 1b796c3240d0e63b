/-
  `Proofs.Store.Checking` — what saving a bundle's content finds.

  The policies of a family are saved one after another, each into the store that the ones
  before it leave (`Store.getElem?_createAll`). A save that succeeds takes the id that the
  policy brings, and no other that some policy brings (`Store.contains_after_create`). So
  what is taken at a place is told by the findings before it, without the store
  (`Bundle.contains_storeBefore_iff`, by induction on the place).

  The finding on a policy is therefore told by the policy and the findings before it
  (`Judged`, `Bundle.judged_familyFindings`). Whether all of them are good is told by the
  policies alone (`Judged.all_passed_iff`): where all pass, of two policies with one id the
  first was saved, and the second finds its id taken.

  Applications are judged one by one (`judged_applicationFinding`).
-/
import ZeroTrust.Proofs.Store.Run
import ZeroTrust.Proofs.Store.Tidying
import ZeroTrust.Store.Check

namespace ZeroTrust

/-! ### Lines -/

/-- Whether a finding is shown as a failure. -/
def Finding.Fails (f : Finding) : Prop :=
  "FAIL".toList <+: f.line.toList

theorem Finding.fails_iff (f : Finding) : f.Fails ↔ f.passed = false := by
  obtain ⟨kind, result⟩ := f
  cases result with
  | ok description => simp [Fails, line, passed, Except.isOk, Except.toBool, toString]
  | error e => simp [Fails, line, passed, Except.isOk, Except.toBool, toString]

theorem Finding.not_fails_iff (f : Finding) : ¬ f.Fails ↔ f.passed = true := by
  rw [fails_iff, Bool.not_eq_false]

theorem Finding.passed_map {α : Type} (kind : ItemKind) (result : Except Error α)
    (describe : α → String) : Finding.passed ⟨kind, result.map describe⟩ = result.isOk := by
  cases result <;> rfl

/-! ### Policies, one after another -/

namespace Store

variable {P : Type} [Policy P] (s : Store P)

/-- The calls that save new policies one after another. -/
def creates (items : List (P × String)) : List (Call P) :=
  items.map fun (p, fresh) => .create fresh .epoch p

theorem createAll_cons (p : P) (fresh : String) (rest : List (P × String)) :
    s.createAll ((p, fresh) :: rest) =
      s.create fresh .epoch p :: ((Call.create fresh .epoch p).after s).createAll rest := by
  rw [createAll, Call.after, Call.answer]
  cases s.create fresh .epoch p <;> rfl

theorem length_createAll (items : List (P × String)) :
    (s.createAll items).length = items.length := by
  induction items generalizing s with
  | nil => rfl
  | cons item rest ih => rw [createAll_cons, List.length_cons, ih, List.length_cons]

/-- Each policy is saved into the store that the ones before it leave. -/
theorem getElem?_createAll {items : List (P × String)} {i : Nat} {p : P} {fresh : String}
    (h : items[i]? = some (p, fresh)) :
    (s.createAll items)[i]? =
      some ((s.run (creates (items.take i))).create fresh .epoch p) := by
  induction items generalizing s i with
  | nil => cases h
  | cons item rest ih =>
    rw [createAll_cons]
    cases i with
    | zero =>
      cases h
      rfl
    | succ i => exact ih _ h

/-- When a new policy is refused, and why. -/
theorem create_eq (fresh : String) (now : Timestamp) (p : P) :
    s.create fresh now p =
      if (Policy.validate p).passed = false then
        .error (.invalid (Policy.name p) (Policy.validate p))
      else if Policy.id p ≠ "" ∧ s.policies.contains (Policy.id p) then
        .error (.alreadyExists (Policy.family P) (Policy.id p))
      else
        let saved := Policy.stamped (Policy.withId p (idFor fresh p)) 1 now
        .ok (saved, s.save saved) := by
  rw [create, Report.orInvalid]
  cases (Policy.validate p).passed with
  | false => rfl
  | true =>
    show (if _ then _ else _) = _
    split <;> rfl

theorem isOk_create_eq_false_iff (fresh : String) (now : Timestamp) (p : P) :
    (s.create fresh now p).isOk = false ↔
      (Policy.validate p).passed = false ∨
        Policy.id p ≠ "" ∧ s.policies.contains (Policy.id p) = true := by
  rw [create_eq]
  split
  case isTrue hinvalid => exact iff_of_true rfl (.inl hinvalid)
  case isFalse hvalid =>
    split
    case isTrue htaken => exact iff_of_true rfl (.inr htaken)
    case isFalse hfree => exact iff_of_false nofun (not_or.2 ⟨hvalid, hfree⟩)

variable {s} [LawfulPolicy P]

/-- A save that succeeds takes the id that the policy brings, if it brings one. -/
theorem contains_after_create {fresh id : String} (now : Timestamp) (p : P) (hid : id ≠ "")
    (hfresh : fresh ≠ id) :
    ((Call.create fresh now p).after s).policies.contains id = true ↔
      s.policies.contains id = true ∨
        (s.create fresh now p).isOk = true ∧ Policy.id p = id := by
  rw [Call.after, Call.answer]
  -- Where the save fails, the store is the one before it and no id is taken.
  cases h : s.create fresh now p with
  | error e => simp [Except.map, Except.isOk, Except.toBool]
  | ok r =>
    -- A policy without an id is filed under another one than that in question.
    have hidFor : id = idFor fresh p ↔ Policy.id p = id := by
      rw [idFor]
      split
      case isTrue hnone =>
        rw [hnone]
        exact ⟨fun heq => absurd heq.symm hfresh, fun heq => absurd heq.symm hid⟩
      case isFalse => exact eq_comm
    show r.2.policies.contains id = true ↔ _
    rw [Registry.contains, find?_of_create h, Registry.contains]
    simp only [hidFor, Except.isOk, Except.toBool, true_and]
    by_cases hp : Policy.id p = id
    · simp [hp]
    · simp [hp]

end Store

/-! ### Findings on policies -/

section Judging

variable {P : Type} [Policy P]

/-- Whether an id is that of a policy that was saved before a place. -/
def TakenBefore (policies : List P) (findings : List Finding) (i : Nat) (id : String) : Prop :=
  id ≠ "" ∧ ∃ j < i, ∃ q g, policies[j]? = some q ∧ findings[j]? = some g ∧ ¬ g.Fails ∧
    Policy.id q = id

/-- Whether findings are the right ones on policies, one for each in order. -/
structure Judged (kind : ItemKind) (describe : P → String) (policies : List P)
    (findings : List Finding) : Prop where
  length_eq : findings.length = policies.length
  kind_eq {f : Finding} (hf : f ∈ findings) : f.kind = kind
  /-- A policy fails when it is invalid or its id is taken. -/
  fails_iff {i : Nat} {p : P} {f : Finding} (hp : policies[i]? = some p)
    (hf : findings[i]? = some f) :
    f.Fails ↔ (Policy.validate p).passed = false ∨ TakenBefore policies findings i (Policy.id p)
  /-- A policy that does not fail is described, and of one that fails it is said why. -/
  result_eq {i : Nat} {p : P} {f : Finding} (hp : policies[i]? = some p)
    (hf : findings[i]? = some f) :
    f.result =
      if (Policy.validate p).passed = false then
        .error (.invalid (Policy.name p) (Policy.validate p))
      else if f.passed then .ok (describe p)
      else .error (.alreadyExists (Policy.family P) (Policy.id p))

namespace Bundle

variable (kind : ItemKind) (describe : P → String) (ids : Nat → String) (first : Nat)
  {policies : List P}

/-- The findings on the policies of a family, with ids from a supply where they have none. -/
def familyFindings (policies : List P) : List Finding :=
  policyFindings kind (policies.map describe) (Store.empty.createAll (withIds ids first policies))

omit [Policy P] in
theorem getElem?_withIds (i : Nat) :
    (withIds ids first policies)[i]? = policies[i]?.map fun p => (p, ids (first + i)) := by
  rw [withIds, List.getElem?_map, List.getElem?_zipIdx, Option.map_map]
  rfl

/-- The store into which the policy at a place is saved. -/
def storeBefore (policies : List P) (i : Nat) : Store P :=
  Store.empty.run (Store.creates ((withIds ids first policies).take i))

theorem storeBefore_succ {i : Nat} {p : P} (hp : policies[i]? = some p) :
    storeBefore ids first policies (i + 1) =
      (Store.Call.create (ids (first + i)) .epoch p).after (storeBefore ids first policies i) := by
  rw [storeBefore, storeBefore, List.take_add_one, getElem?_withIds, hp, Store.creates,
    Store.creates, List.map_append, Store.run_append]
  rfl

theorem getElem?_familyFindings {i : Nat} {p : P} (hp : policies[i]? = some p) :
    (familyFindings kind describe ids first policies)[i]? =
      some ⟨kind, ((storeBefore ids first policies i).create (ids (first + i)) .epoch p).map
        fun _ => describe p⟩ := by
  have hitem : (withIds ids first policies)[i]? = some (p, ids (first + i)) := by
    rw [getElem?_withIds, hp]
    rfl
  have hdescription : (policies.map describe)[i]? = some (describe p) := by
    rw [List.getElem?_map, hp]
    rfl
  have hpair : ((policies.map describe).zip
      (Store.empty.createAll (withIds ids first policies)))[i]? =
        some (describe p, (storeBefore ids first policies i).create (ids (first + i)) .epoch p) :=
    List.getElem?_zip_eq_some.2 ⟨hdescription, Store.getElem?_createAll _ hitem⟩
  rw [familyFindings, policyFindings, List.getElem?_map, hpair]
  rfl

theorem length_familyFindings (policies : List P) :
    (familyFindings kind describe ids first policies).length = policies.length := by
  simp [familyFindings, policyFindings, Store.length_createAll, withIds]

variable [LawfulPolicy P] {ids}

/-- **What is taken at a place** is told by the findings before it. -/
theorem contains_storeBefore_iff {i : Nat} {id : String} (hi : i ≤ policies.length)
    (hid : id ≠ "") (hids : ∀ n, ids n ≠ id) :
    (storeBefore ids first policies i).policies.contains id = true ↔
      TakenBefore policies (familyFindings kind describe ids first policies) i id := by
  rw [TakenBefore, and_iff_right hid]
  -- One more policy takes its id, if it is saved, and its own finding says whether it is.
  induction i with
  | zero => simp [storeBefore, Store.creates, Store.empty, Registry.contains]
  | succ i ih =>
    have hp : policies[i]? = some policies[i] := List.getElem?_eq_getElem hi
    rw [storeBefore_succ ids first hp, Store.contains_after_create .epoch _ hid (hids _),
      ih (Nat.le_of_succ_le hi), Nat.exists_lt_succ_right, hp,
      getElem?_familyFindings kind describe ids first hp]
    refine or_congr_right ?_
    simp [Finding.not_fails_iff, Finding.passed_map, and_comm]

theorem takenBefore_iff (hids : ∀ n, ∀ p ∈ policies, Policy.id p ≠ "" → ids n ≠ Policy.id p)
    {i : Nat} {p : P} (hp : policies[i]? = some p) :
    (Policy.id p ≠ "" ∧
        (storeBefore ids first policies i).policies.contains (Policy.id p) = true) ↔
      TakenBefore policies (familyFindings kind describe ids first policies) i (Policy.id p) := by
  by_cases hid : Policy.id p = ""
  · simp [hid, TakenBefore]
  · have hi : i < policies.length := (List.getElem?_eq_some_iff.1 hp).1
    have hfree (n : Nat) : ids n ≠ Policy.id p := hids n p (List.mem_of_getElem? hp) hid
    rw [contains_storeBefore_iff kind describe first hi.le hid hfree, and_iff_right hid]

/-- **The findings on the policies of a family** are the right ones, where the supply has none of
the ids that the policies bring. -/
theorem judged_familyFindings
    (hids : ∀ n, ∀ p ∈ policies, Policy.id p ≠ "" → ids n ≠ Policy.id p) :
    Judged kind describe policies (familyFindings kind describe ids first policies) where
  length_eq := length_familyFindings kind describe ids first policies
  kind_eq hf := by
    obtain ⟨x, -, rfl⟩ := List.mem_map.1 hf
    rfl
  fails_iff {i p f} hp hf := by
    rw [getElem?_familyFindings kind describe ids first hp, Option.some.injEq] at hf
    rw [← hf, Finding.fails_iff, Finding.passed_map, Store.isOk_create_eq_false_iff,
      takenBefore_iff kind describe first hids hp]
  result_eq {i p f} hp hf := by
    rw [getElem?_familyFindings kind describe ids first hp, Option.some.injEq] at hf
    rw [← hf, Finding.passed_map, Store.create_eq]
    split
    case isTrue h => rfl
    case isFalse h => split <;> rfl

end Bundle

namespace Judged

variable {kind : ItemKind} {describe : P → String} {policies : List P} {findings : List Finding}

theorem exists_finding (h : Judged kind describe policies findings) {i : Nat} {p : P}
    (hp : policies[i]? = some p) : ∃ f, findings[i]? = some f := by
  have hi : i < findings.length := h.length_eq ▸ (List.getElem?_eq_some_iff.1 hp).1
  exact ⟨_, List.getElem?_eq_getElem hi⟩

theorem passed_iff (h : Judged kind describe policies findings) {i : Nat} {p : P} {f : Finding}
    (hp : policies[i]? = some p) (hf : findings[i]? = some f) :
    f.passed = true ↔
      (Policy.validate p).passed = true ∧ ¬ TakenBefore policies findings i (Policy.id p) := by
  rw [← f.not_fails_iff, h.fails_iff hp hf, not_or, Bool.not_eq_false]

/-- All findings are good when the one at every place is. -/
theorem all_passed_iff_forall (h : Judged kind describe policies findings) :
    findings.all Finding.passed = true ↔
      ∀ i p, policies[i]? = some p →
        (Policy.validate p).passed = true ∧ ¬ TakenBefore policies findings i (Policy.id p) := by
  rw [List.all_eq_true]
  constructor
  · intro hall i p hp
    obtain ⟨f, hf⟩ := h.exists_finding hp
    exact (h.passed_iff hp hf).1 (hall f (List.mem_of_getElem? hf))
  · intro hall f hmem
    obtain ⟨i, hi, rfl⟩ := List.getElem_of_mem hmem
    have hplace : i < policies.length := h.length_eq ▸ hi
    have hp : policies[i]? = some policies[i] := List.getElem?_eq_getElem hplace
    exact (h.passed_iff hp (List.getElem?_eq_getElem hi)).2 (hall i _ hp)

/-- **All findings on policies are good** exactly where the policies are valid and no two of them
share an id. -/
theorem all_passed_iff (h : Judged kind describe policies findings) :
    findings.all Finding.passed = true ↔
      (∀ p ∈ policies, (Policy.validate p).passed = true) ∧
        policies.Pairwise fun p q => Policy.id p ≠ "" → Policy.id p ≠ Policy.id q := by
  rw [List.pairwise_iff_getElem]
  constructor
  · intro hall
    have hplaces := h.all_passed_iff_forall.1 hall
    refine ⟨fun p hp => ?_, fun i j hi hj hij hid heq => ?_⟩
    · obtain ⟨i, hi⟩ := List.mem_iff_getElem?.1 hp
      exact (hplaces i p hi).1
    · -- The earlier of the two was saved, so the later one finds its id taken.
      have hq : policies[i]? = some policies[i] := List.getElem?_eq_getElem hi
      obtain ⟨g, hg⟩ := h.exists_finding hq
      have hsaved : ¬ g.Fails :=
        g.not_fails_iff.2 (List.all_eq_true.1 hall g (List.mem_of_getElem? hg))
      exact (hplaces j _ (List.getElem?_eq_getElem hj)).2
        ⟨heq ▸ hid, i, hij, _, g, hq, hg, hsaved, heq⟩
  · rintro ⟨hvalid, hdistinct⟩
    rw [h.all_passed_iff_forall]
    -- An id can only be taken by an earlier policy that shares it.
    intro i p hp
    refine ⟨hvalid p (List.mem_of_getElem? hp), ?_⟩
    rintro ⟨hid, j, hji, q, g, hq, -, -, heq⟩
    obtain ⟨hi, rfl⟩ := List.getElem?_eq_some_iff.1 hp
    obtain ⟨hj, rfl⟩ := List.getElem?_eq_some_iff.1 hq
    exact hdistinct j i hj hi hji (heq ▸ hid) heq

end Judged

end Judging

/-! ### Findings on applications -/

/-- An application with its networks trimmed and each of them once. -/
def Application.trimmedOnce (a : Application) : Application :=
  { a with cidrs := (a.cidrs.map Text.trim).eraseDups }

theorem Application.tidied_eq_trimmedOnce (a : Application) : a.tidied = a.trimmedOnce := by
  rw [tidied, unseen_nil, trimmedOnce]

/-- Whether a finding is the right one on an application, which fails when it is invalid. -/
structure JudgedApplication (a : Application) (f : Finding) : Prop where
  kind_eq : f.kind = .application
  fails_iff : f.Fails ↔ a.trimmedOnce.validate.passed = false
  result_eq : f.result =
    if f.passed then .ok a.name else .error (.invalid a.name a.trimmedOnce.validate)

theorem judged_applicationFinding (a : Application) :
    JudgedApplication a (Bundle.applicationFinding a) := by
  have hresult : (Directory.empty.upsert a).map (fun _ => a.name) =
      if a.trimmedOnce.validate.passed then .ok a.name
      else .error (.invalid a.name a.trimmedOnce.validate) := by
    rw [Directory.upsert, a.tidied_eq_trimmedOnce, Report.orInvalid]
    split <;> rfl
  have hpassed : (Bundle.applicationFinding a).passed = a.trimmedOnce.validate.passed := by
    rw [Finding.passed, Bundle.applicationFinding, hresult]
    cases a.trimmedOnce.validate.passed <;> rfl
  refine ⟨rfl, ?_, ?_⟩
  · rw [Finding.fails_iff, hpassed]
  · rw [hpassed, Bundle.applicationFinding, hresult]

end ZeroTrust
