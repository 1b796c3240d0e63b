/-
  `Proofs.Store.Versions` — in one lifetime a version names one policy.

  The lifetime of a policy begins when it is created and lasts as long as it is not
  deleted (`Store.Lifetime`). Its version is one at first and is counted up by one at
  each call that saves it anew, and at no other (`Store.Lifetime.exists_step`). What is
  handed out later is therefore of a later version, or it is the same policy, and
  two policies of one version that are handed out in a lifetime are equal
  (`Store.Lifetime.version_names_policy`).

  A version counts the saves of one lifetime, so it is never greater than the number
  of calls made (`Store.version_le_length`).
-/
import ZeroTrust.Proofs.Store.History
import ZeroTrust.Proofs.Store.LostUpdate

namespace ZeroTrust

namespace Store

variable {P : Type} [Policy P]

/-! ### Saving anew -/

/-- Whether a call saves the policy stored under an id anew: it replaces it, or it switches it to a
state that it is not in. -/
def Call.Resaves (s : Store P) (id : String) : Call P → Prop
  | update now p => Policy.id p = id ∧ (update now p).Succeeds s
  | setEnabled _ name enabled =>
    name = id ∧ ∃ stored, s.policies.find? id = some stored ∧ Policy.enabled stored ≠ enabled
  | _ => False

/-- The policy as it is after a call that switches it. -/
def switched (p : P) (now : Timestamp) (enabled : Bool) : P :=
  Policy.stamped (Policy.withEnabled p enabled) (Policy.version p + 1) now

section Steps

variable [LawfulPolicy P] {s : Store P} {c : Call P} {id : String} {old : P}

omit [LawfulPolicy P] in
/-- A policy that is switched is changed in its switch, its version and its moment. -/
theorem find?_after_setEnabled {enabled : Bool} (now : Timestamp)
    (hold : s.policies.find? id = some old) (hne : Policy.enabled old ≠ enabled) :
    ((Call.setEnabled now id enabled).after s).policies.find? id =
      some (switched old now enabled) := by
  have hok : s.setEnabled now id enabled =
      .ok (switched old now enabled, ⟨s.policies.insert id (switched old now enabled)⟩) :=
    (s.setEnabled_eq_ok_iff now id enabled _ _).2 ⟨old, hold, .inr ⟨hne, rfl, rfl⟩⟩
  rw [Call.after, Call.answer, hok]
  exact (find?_of_setEnabled hok).trans (if_pos rfl)

theorem version_of_resaves (hold : s.policies.find? id = some old) (h : c.Resaves s id) :
    ∃ new, (c.after s).policies.find? id = some new ∧
      Policy.version new = Policy.version old + 1 := by
  cases c with
  | update now p =>
    obtain ⟨hid, ps, s', hanswer⟩ := h
    have hafter := after_of_answer_eq_ok hanswer
    obtain ⟨r, hr, heq⟩ := (Except.map_eq_ok_iff _ _ _).1 hanswer
    obtain ⟨rfl, rfl⟩ := Prod.mk.inj heq
    obtain ⟨stored, hstored, -, -, hsaved, -⟩ := (s.update_eq_ok_iff now p r.1 r.2).1 hr
    -- The save is on top of what is stored under the id.
    obtain rfl : stored = old := by
      rw [hid, hold] at hstored
      exact (Option.some.inj hstored).symm
    refine ⟨r.1, ?_, by simp [hsaved]⟩
    rw [hafter, find?_of_update hr, if_pos hid.symm]
  | setEnabled now name enabled =>
    obtain ⟨rfl, stored, hstored, hne⟩ := h
    obtain rfl := Option.some.inj (hold.symm.trans hstored)
    exact ⟨_, find?_after_setEnabled _ hold hne, by simp [switched]⟩
  | create _ _ _ => exact h.elim
  | delete _ => exact h.elim
  | get _ => exact h.elim
  | list => exact h.elim

/-- A policy that is not saved anew stays as it is until it is deleted. -/
theorem find?_after_of_not_resaves (hfree : c.IdFree s) (hold : s.policies.find? id = some old)
    (hresaves : ¬ c.Resaves s id) (hdelete : c = .delete id → ¬ c.Succeeds s) :
    (c.after s).policies.find? id = some old := by
  have hchange := change_after s c id
  generalize hvalue : (c.after s).policies.find? id = value at hchange
  cases hchange with
  | kept => exact hold
  | created hid hnone =>
    -- Nothing is created under an id that is in use.
    have hnone := hnone hfree
    rw [hold] at hnone
    cases hnone
  | updated hid hstored =>
    obtain rfl := Option.some.inj (hold.symm.trans hstored)
    -- The save leaves a version that was not there before, so it succeeded.
    refine absurd ⟨hid, succeeds_of_find?_ne id ?_⟩ hresaves
    intro hsame
    have hversion := congrArg (Option.map Policy.version) (hvalue.symm.trans (hsame.trans hold))
    simp at hversion
  | switched hstored hne =>
    exact absurd ⟨rfl, _, hstored, hne⟩ hresaves
  | deleted hstored =>
    -- The deletion took something away, so it succeeded.
    refine absurd (succeeds_of_find?_ne id ?_) (hdelete rfl)
    rw [hvalue, hold]
    simp

end Steps

/-! ### How far versions count -/

variable [LawfulPolicy P] in
/-- Versions grow by no more than one with each call. -/
theorem every_version_le_run {s : Store P} {cs : List (Call P)} {n : Nat}
    (h : s.Every fun _ p => Policy.version p ≤ n) :
    (s.run cs).Every fun _ p => Policy.version p ≤ n + cs.length := by
  induction cs generalizing s n with
  | nil => exact h
  | cons c cs ih =>
    have hnext : (c.after s).Every fun _ p => Policy.version p ≤ n + 1 := by
      -- A creation begins at one, and every other save adds one to what was bounded before.
      refine every_after h ?_ ?_ ?_ ?_
      · exact fun id p hle => Nat.le_succ_of_le hle
      · intro fresh now p _ _
        simp
      · intro now p stored hle _
        simpa using hle
      · intro now id stored enabled hle
        simpa using hle
    have hrest := ih hnext
    rwa [List.length_cons, Nat.add_comm cs.length, ← Nat.add_assoc]

variable [LawfulPolicy P] in
/-- **No version is greater than the number of calls made**, so fewer than `2 ^ 64` calls never
exhaust the versions that a document can hold. -/
theorem version_le_length {cs : List (Call P)} {id : String} {p : P}
    (h : (empty.run cs).policies.find? id = some p) : Policy.version p ≤ cs.length := by
  have hrun := every_version_le_run (every_empty fun _ p => Policy.version p ≤ 0) id p h
  rwa [Nat.zero_add] at hrun

/-! ### Until a policy is deleted -/

/-- Whether some calls, one after another, do not delete the policy under an id. -/
def Spares (s : Store P) (id : String) (calls : List (Call P)) : Prop :=
  ∀ done rest, calls = done ++ .delete id :: rest → ¬ (Call.delete id).Succeeds (s.run done)

section Runs

variable {s : Store P} {id : String} {p q : P} {cs ds : List (Call P)}

theorem Spares.left (h : s.Spares id (cs ++ ds)) : s.Spares id cs := by
  rintro done rest rfl
  exact h done (rest ++ ds) (by simp)

theorem Spares.right (h : s.Spares id (cs ++ ds)) : (s.run cs).Spares id ds := by
  rintro done rest rfl
  rw [← run_append]
  exact h (cs ++ done) rest (by simp)

theorem Spares.tail {c : Call P} (h : s.Spares id (c :: cs)) : (c.after s).Spares id cs := by
  rintro done rest rfl
  exact h (c :: done) rest rfl

theorem spares_of_notMem (s : Store P) (h : .delete id ∉ cs) : s.Spares id cs := by
  rintro done rest rfl
  simp at h

variable [LawfulPolicy P]

/-- A policy that is not deleted stays, or gives way to one of a later version. -/
theorem holdsOrLater_run (hfree : s.IdsFree cs) (hspares : s.Spares (Policy.id p) cs)
    (h : s.HoldsOrLater p) : (s.run cs).HoldsOrLater p := by
  rcases holds_or_deleted hfree h with hend | ⟨done, rest, rfl, hdeleted, -⟩
  · exact hend
  · exact absurd hdeleted (hspares done rest rfl)

theorem eq_of_handsOut {c : Call P} (hfiled : s.Filed) (hp : c.HandsOut s p) (hq : c.HandsOut s q)
    (hid : Policy.id p = Policy.id q) : p = q := by
  have hpstored := find?_after_of_handsOut hfiled hp
  have hqstored := find?_after_of_handsOut hfiled hq
  rw [hid, hqstored] at hpstored
  exact (Option.some.inj hpstored).symm

/-- A policy that is handed out later is the same or one of a later version. -/
theorem eq_or_version_lt_of_handsOut {c d : Call P} (hfiled : s.Filed)
    (hfree : s.IdsFree (c :: (cs ++ [d]))) (hspares : s.Spares (Policy.id p) (c :: (cs ++ [d])))
    (hp : c.HandsOut s p) (hq : d.HandsOut (s.run (c :: cs)) q) (hid : Policy.id p = Policy.id q) :
    q = p ∨ Policy.version p < Policy.version q := by
  -- The first call leaves the policy in the store, the last one the other in its place.
  have hheld : (c.after s).HoldsOrLater p := ⟨p, find?_after_of_handsOut hfiled hp, .inl rfl⟩
  have hlater := holdsOrLater_run hfree.2 hspares.tail hheld
  have hmiddle : (s.run (c :: cs)).Filed := filed_run hfiled
  have hqstored := find?_after_of_handsOut hmiddle hq
  obtain ⟨stored, hstored, hversion⟩ := hlater
  rw [run_append, hid] at hstored
  obtain rfl := Option.some.inj (hqstored.symm.trans hstored)
  exact hversion

end Runs

/-! ### Lifetimes -/

/-- The lifetime of a policy: the calls of a run up to its creation, which succeeds, and calls from
there on that do not delete it. -/
structure Lifetime (P : Type) [Policy P] where
  before : List (Call P)
  fresh : String
  now : Timestamp
  draft : P
  during : List (Call P)
  idsFree : (empty : Store P).IdsFree (before ++ .create fresh now draft :: during)
  created : (Call.create fresh now draft).Succeeds (empty.run before)
  spared : (empty.run before).Spares (idFor fresh draft) (.create fresh now draft :: during)

namespace Lifetime

def creation (l : Lifetime P) : Call P :=
  .create l.fresh l.now l.draft

def id (l : Lifetime P) : String :=
  idFor l.fresh l.draft

/-- The policy as it is created. -/
def first (l : Lifetime P) : P :=
  Policy.stamped (Policy.withId l.draft l.id) 1 l.now

/-- The store after some calls of the lifetime, which begins with the creation. -/
def after (l : Lifetime P) (done : List (Call P)) : Store P :=
  (empty.run l.before).run done

/-- Whether a call of the lifetime hands out the policy, as it is then. -/
def Shows (l : Lifetime P) (p : P) : Prop :=
  ∃ done c rest, l.creation :: l.during = done ++ c :: rest ∧ c.HandsOut (l.after done) p ∧
    Policy.id p = l.id

section Positions

variable (l : Lifetime P) {done rest : List (Call P)}

theorem idsFree_calls : (empty.run l.before).IdsFree (l.creation :: l.during) :=
  ((idsFree_append empty l.before _).1 l.idsFree).2

theorem idsFree_after (h : l.creation :: l.during = done ++ rest) :
    (l.after done).IdsFree rest := by
  have hcalls := l.idsFree_calls
  rw [h, idsFree_append] at hcalls
  exact hcalls.2

theorem spares_after (h : l.creation :: l.during = done ++ rest) :
    (l.after done).Spares l.id rest := by
  have hspared : (empty.run l.before).Spares l.id (l.creation :: l.during) := l.spared
  rw [h] at hspared
  exact hspared.right

theorem exists_create_eq_ok :
    ∃ s', (empty.run l.before).create l.fresh l.now l.draft = .ok (l.first, s') := by
  obtain ⟨ps, s', hanswer⟩ := l.created
  obtain ⟨r, hr, -⟩ := (Except.map_eq_ok_iff _ _ _).1 hanswer
  have hfirst : r.1 = l.first := ((create_eq_ok_iff _ _ _ _ r.1 r.2).1 hr).2.2.1
  exact ⟨r.2, hfirst ▸ hr⟩

theorem handsOut_creation : l.creation.HandsOut (l.after []) l.first := by
  obtain ⟨s', hcreate⟩ := l.exists_create_eq_ok
  refine ⟨[l.first], s', ?_, List.mem_singleton.2 rfl⟩
  rw [after, run_nil, creation, Call.answer, hcreate]
  rfl

variable [LawfulPolicy P]

theorem id_first : Policy.id l.first = l.id := by
  simp [first]

theorem filed_after : (l.after done).Filed :=
  filed_run (filed_run filed_empty)

theorem find?_creation : (l.after [l.creation]).policies.find? l.id = some l.first := by
  have hfiled : (l.after []).Filed := l.filed_after
  have hstored := find?_after_of_handsOut hfiled l.handsOut_creation
  rw [id_first] at hstored
  exact hstored

/-- The policy is stored throughout its lifetime. -/
theorem exists_stored (h : l.during = done ++ rest) :
    ∃ old, (l.after (l.creation :: done)).policies.find? l.id = some old := by
  have hcalls : l.creation :: l.during = [l.creation] ++ (done ++ rest) := by rw [h]; rfl
  have hspares := l.id_first ▸ (l.spares_after hcalls).left
  have hfree := ((idsFree_append _ _ _).1 (l.idsFree_after hcalls)).1
  -- From the creation on the policy is held, or a later version of it.
  have hheld : (l.after [l.creation]).HoldsOrLater l.first :=
    ⟨l.first, l.id_first ▸ l.find?_creation, .inl rfl⟩
  obtain ⟨old, hold, -⟩ := holdsOrLater_run hfree hspares hheld
  rw [id_first] at hold
  exact ⟨old, hold⟩

theorem eq_or_version_lt {between : List (Call P)} {c d : Call P} {p q : P}
    (h : l.creation :: l.during = done ++ c :: (between ++ d :: rest))
    (hp : c.HandsOut (l.after done) p) (hpid : Policy.id p = l.id)
    (hq : d.HandsOut (l.after (done ++ c :: between)) q) (hqid : Policy.id q = l.id) :
    q = p ∨ Policy.version p < Policy.version q := by
  have hcalls : l.creation :: l.during = done ++ ((c :: (between ++ [d])) ++ rest) := by
    simpa using h
  have hfree := ((idsFree_append _ _ _).1 (l.idsFree_after hcalls)).1
  have hspares := hpid ▸ (l.spares_after hcalls).left
  rw [after, run_append] at hq
  exact eq_or_version_lt_of_handsOut l.filed_after hfree hspares hp hq
    (hpid.trans hqid.symm)

/-- The version is counted up by one where the policy is saved anew. Any other call leaves the
policy as it is. -/
theorem exists_step {c : Call P} (h : l.during = done ++ c :: rest) :
    ∃ old new, (l.after (l.creation :: done)).policies.find? l.id = some old ∧
      (l.after (l.creation :: (done ++ [c]))).policies.find? l.id = some new ∧
      (c.Resaves (l.after (l.creation :: done)) l.id →
        Policy.version new = Policy.version old + 1) ∧
      (¬ c.Resaves (l.after (l.creation :: done)) l.id → new = old) := by
  have hcalls : l.creation :: l.during = (l.creation :: done) ++ c :: rest := by rw [h]; rfl
  obtain ⟨old, hold⟩ := l.exists_stored h
  have hnext : l.after (l.creation :: (done ++ [c])) = c.after (l.after (l.creation :: done)) := by
    rw [after, ← List.cons_append, run_append]
    rfl
  rw [hnext]
  by_cases hresaves : c.Resaves (l.after (l.creation :: done)) l.id
  · obtain ⟨new, hnew, hversion⟩ := version_of_resaves hold hresaves
    exact ⟨old, new, hold, hnew, fun _ => hversion, fun hnot => absurd hresaves hnot⟩
  · -- A lifetime has no deletion, so a call that does not save anew leaves the policy.
    have hdelete : c = .delete l.id → ¬ c.Succeeds (l.after (l.creation :: done)) := by
      rintro rfl
      exact l.spares_after hcalls [] rest rfl
    have hkept :=
      find?_after_of_not_resaves (l.idsFree_after hcalls).1 hold hresaves hdelete
    exact ⟨old, old, hold, hkept, fun hyes => absurd hyes hresaves, fun _ => rfl⟩

theorem eq_of_version_eq {p q : P} (hp : l.Shows p) (hq : l.Shows q)
    (hversion : Policy.version p = Policy.version q) : p = q := by
  obtain ⟨done, c, rest, hcalls, hp, hpid⟩ := hp
  obtain ⟨done', d, rest', hcalls', hq, hqid⟩ := hq
  -- One of the two calls comes first, and the gap is what lies between them.
  rcases List.append_eq_append_iff.1 (hcalls.symm.trans hcalls') with
    ⟨gap, rfl, hgap⟩ | ⟨gap, rfl, hgap⟩
  · cases gap with
    | nil =>
      -- One call hands out both.
      obtain ⟨rfl, -⟩ := List.cons.inj hgap
      rw [List.append_nil] at hq
      exact eq_of_handsOut l.filed_after hp hq (hpid.trans hqid.symm)
    | cons e between =>
      obtain ⟨rfl, rfl⟩ := List.cons.inj hgap
      -- The later one hands out the same policy, since its version is no greater.
      rcases l.eq_or_version_lt hcalls hp hpid hq hqid with heq | hlt
      · exact heq.symm
      · omega
  · cases gap with
    | nil =>
      obtain ⟨rfl, -⟩ := List.cons.inj hgap
      rw [List.append_nil] at hp
      exact eq_of_handsOut l.filed_after hp hq (hpid.trans hqid.symm)
    | cons e between =>
      obtain ⟨rfl, rfl⟩ := List.cons.inj hgap
      rcases l.eq_or_version_lt hcalls' hq hqid hp hpid with heq | hlt
      · exact heq
      · omega

end Positions

/-- **In one lifetime a version names one policy**: it is one at the creation and is counted up by
one at each call that saves the policy anew and at no other, so two policies of one version that are
handed out are equal. Switching the policy changes its switch, version and moment only. -/
theorem version_names_policy [LawfulPolicy P] (l : Lifetime P) :
    ((l.after [l.creation]).get l.id = .ok l.first ∧ Policy.version l.first = 1) ∧
      (∀ done c rest, l.during = done ++ c :: rest →
        ∃ old new, (l.after (l.creation :: done)).get l.id = .ok old ∧
          (l.after (l.creation :: (done ++ [c]))).get l.id = .ok new ∧
          (c.Resaves (l.after (l.creation :: done)) l.id →
            Policy.version new = Policy.version old + 1) ∧
          (¬ c.Resaves (l.after (l.creation :: done)) l.id → new = old) ∧
          ∀ now enabled, c = .setEnabled now l.id enabled → Policy.enabled old ≠ enabled →
            new = Policy.stamped (Policy.withEnabled old enabled) (Policy.version old + 1) now) ∧
      ∀ p q, l.Shows p → l.Shows q → Policy.version p = Policy.version q → p = q := by
  refine ⟨⟨(get_eq_ok_iff _ _ _).2 l.find?_creation, by simp [first]⟩, ?_, fun p q hp hq =>
    l.eq_of_version_eq hp hq⟩
  intro done c rest h
  obtain ⟨old, new, hold, hnew, hresaved, hkept⟩ := l.exists_step h
  refine ⟨old, new, (get_eq_ok_iff _ _ _).2 hold, (get_eq_ok_iff _ _ _).2 hnew, hresaved, hkept,
    fun now enabled hswitch hne => ?_⟩
  subst hswitch
  have hnext := find?_after_setEnabled now hold hne
  rw [after, ← List.cons_append, run_append] at hnew
  exact Option.some.inj (hnew.symm.trans hnext)

/-- The life of a policy whose id was in use before: it is switched off twice, saved with another
priority, saved on top of an old version in vain, and read. -/
def office : Lifetime AccessPolicy where
  before := [.create "" .epoch Store.office, .delete "a"]
  fresh := ""
  now := .epoch
  draft := { Store.office with version := 41 }
  during := [.setEnabled .epoch "a" false, .setEnabled .epoch "a" false,
    .update .epoch { Store.office with priority := 7, version := 2 },
    .update .epoch { Store.office with priority := 8, version := 2 }, .get "a"]
  idsFree := by decide +kernel
  created := by decide +kernel
  spared := spares_of_notMem _ (by simp [idFor, Policy.id, Store.office])

/-- The first version is one, switching the policy off changes nothing else, and what is handed out
of one version is equal. -/
theorem version_names_policy_office :
    ((office.after [office.creation]).get "a" = .ok office.first ∧
        Policy.version office.first = 1) ∧
      (∃ old new, (office.after [office.creation]).get "a" = .ok old ∧
        (office.after [office.creation, .setEnabled .epoch "a" false]).get "a" = .ok new ∧
        (Policy.enabled old ≠ false → new =
          { old with enabled := false, version := old.version + 1, updatedAt := some .epoch })) ∧
      ∀ p q, office.Shows p → office.Shows q → Policy.version p = Policy.version q → p = q := by
  have ⟨hfirst, hstep, hequal⟩ := version_names_policy office
  refine ⟨hfirst, ?_, hequal⟩
  obtain ⟨old, new, hold, hnew, -, -, hswitched⟩ :=
    hstep [] (.setEnabled .epoch "a" false) _ rfl
  exact ⟨old, new, hold, hnew, hswitched .epoch false rfl⟩

end Lifetime

end Store

end ZeroTrust
