/-
  `Proofs.Store.Run` — runs of a store.

  A store is called by any number of clients, one call at a time, so what happens
  to it is a list of calls (`Store.run`). A call that fails leaves the store as it
  was. `Call.Change` says all that a call can do to the policy under one id, and
  `change_after` that it does nothing else; whatever holds of every run is proved
  from that, one kind of change after the other.

  Ids for new policies come from outside. A call brings a free one when it is not
  in use (`Call.IdFree`), and `IdsFree` says so of every call of a run.
-/
import ZeroTrust.Proofs.Store.Operations

namespace ZeroTrust

namespace Store

/-- A call to a store, with the id for a new policy and the moment of a save. -/
inductive Call (P : Type) where
  | create (fresh : String) (now : Timestamp) (p : P)
  | update (now : Timestamp) (p : P)
  | setEnabled (now : Timestamp) (id : String) (enabled : Bool)
  | delete (id : String)
  | get (id : String)
  | list

variable {P : Type} [Policy P]

namespace Call

/-! ### One call -/

/-- What a call answers: the policies that it hands out, with the store that it leaves. -/
def answer (s : Store P) : Call P → Except Error (List P × Store P)
  | create fresh now p => (s.create fresh now p).map fun r => ([r.1], r.2)
  | update now p => (s.update now p).map fun r => ([r.1], r.2)
  | setEnabled now id enabled => (s.setEnabled now id enabled).map fun r => ([r.1], r.2)
  | delete id => (s.delete id).map fun s' => ([], s')
  | get id => (s.get id).map fun p => ([p], s)
  | list => .ok (s.list, s)

/-- The store after a call. One that fails leaves it as it was. -/
def after (s : Store P) (c : Call P) : Store P :=
  match c.answer s with
  | .ok (_, s') => s'
  | .error _ => s

/-- Whether a call succeeds. -/
def Succeeds (s : Store P) (c : Call P) : Prop :=
  ∃ ps s', c.answer s = .ok (ps, s')

/-- Whether a call hands out a policy. -/
def HandsOut (s : Store P) (c : Call P) (p : P) : Prop :=
  ∃ ps s', c.answer s = .ok (ps, s') ∧ p ∈ ps

/-- Whether the id that a call brings for a new policy, if it needs one, is not in use. -/
def IdFree (s : Store P) : Call P → Prop
  | create fresh _ p => Policy.id p = "" → s.policies.contains fresh = false
  | _ => True

instance (s : Store P) (c : Call P) : Decidable (c.Succeeds s) :=
  match h : c.answer s with
  | .ok r => .isTrue ⟨r.1, r.2, h⟩
  | .error _ => .isFalse fun ⟨_, _, hok⟩ => nomatch h.symm.trans hok

instance [DecidableEq P] (s : Store P) (c : Call P) (p : P) : Decidable (c.HandsOut s p) :=
  match h : c.answer s with
  | .ok r =>
    decidable_of_iff (p ∈ r.1) ⟨fun hp => ⟨r.1, r.2, h, hp⟩, fun ⟨_, _, hok, hp⟩ =>
      Except.ok.inj (h.symm.trans hok) ▸ hp⟩
  | .error _ => .isFalse fun ⟨_, _, hok, _⟩ => nomatch h.symm.trans hok

instance (s : Store P) (c : Call P) : Decidable (c.IdFree s) :=
  match c with
  | create fresh _ p =>
    inferInstanceAs (Decidable (Policy.id p = "" → s.policies.contains fresh = false))
  | update _ _ | setEnabled _ _ _ | delete _ | get _ | list => .isTrue trivial

end Call

/-! ### Runs -/

/-- The store after some calls, one after another. -/
def run (s : Store P) (calls : List (Call P)) : Store P :=
  calls.foldl Call.after s

/-- Whether each call of a run brings an id that is not in use when it is made. -/
def IdsFree (s : Store P) : List (Call P) → Prop
  | [] => True
  | c :: cs => c.IdFree s ∧ IdsFree (c.after s) cs

instance decidableIdsFree (s : Store P) : (cs : List (Call P)) → Decidable (s.IdsFree cs)
  | [] => .isTrue trivial
  | c :: cs =>
    have := decidableIdsFree (c.after s) cs
    inferInstanceAs (Decidable (c.IdFree s ∧ IdsFree (c.after s) cs))

@[simp] theorem run_nil (s : Store P) : s.run [] = s := rfl

@[simp] theorem run_cons (s : Store P) (c : Call P) (cs : List (Call P)) :
    s.run (c :: cs) = (c.after s).run cs := rfl

@[simp] theorem run_append (s : Store P) (cs ds : List (Call P)) :
    s.run (cs ++ ds) = (s.run cs).run ds :=
  List.foldl_append

theorem idsFree_append (s : Store P) (cs ds : List (Call P)) :
    s.IdsFree (cs ++ ds) ↔ s.IdsFree cs ∧ (s.run cs).IdsFree ds := by
  induction cs generalizing s with
  | nil => simp [IdsFree]
  | cons c cs ih => rw [List.cons_append, IdsFree, IdsFree, ih, run_cons, and_assoc]

/-! ### What a call changes -/

section Answers

variable {s s' : Store P} {c : Call P}

theorem after_of_answer_eq_ok {ps : List P} (h : c.answer s = .ok (ps, s')) : c.after s = s' := by
  rw [Call.after, h]

/-- A call that fails leaves the store as it was. -/
theorem after_of_answer_eq_error {e : Error} (h : c.answer s = .error e) : c.after s = s := by
  rw [Call.after, h]

/-- A call that changes what is stored under some id succeeds. -/
theorem succeeds_of_find?_ne (id : String)
    (h : (c.after s).policies.find? id ≠ s.policies.find? id) : c.Succeeds s := by
  cases hanswer : c.answer s with
  | ok r => exact ⟨r.1, r.2, hanswer⟩
  | error e => exact absurd (by rw [after_of_answer_eq_error hanswer]) h

end Answers

/-- What a call can do to the policy under an id: leave it, save a new one, replace the stored one,
switch it, or remove it. Where a call brings a free id, a new policy takes the place of none. -/
inductive Call.Change (s : Store P) (id : String) : Call P → Option P → Prop where
  | kept {c : Call P} : Change s id c (s.policies.find? id)
  | created {fresh : String} {now : Timestamp} {p : P} (hid : idFor fresh p = id)
    (hnone : (create fresh now p).IdFree s → s.policies.find? id = none)
    (hpassed : (Policy.validate p).passed = true) :
    Change s id (.create fresh now p) (some (Policy.stamped (Policy.withId p id) 1 now))
  | updated {now : Timestamp} {p stored : P} (hid : Policy.id p = id)
    (hstored : s.policies.find? id = some stored)
    (hversion : Policy.version stored = Policy.version p)
    (hpassed : (Policy.validate p).passed = true) :
    Change s id (.update now p) (some (Policy.stamped p (Policy.version stored + 1) now))
  | switched {now : Timestamp} {enabled : Bool} {stored : P}
    (hstored : s.policies.find? id = some stored) (hne : Policy.enabled stored ≠ enabled) :
    Change s id (.setEnabled now id enabled)
      (some (Policy.stamped (Policy.withEnabled stored enabled) (Policy.version stored + 1) now))
  | deleted {stored : P} (hstored : s.policies.find? id = some stored) :
    Change s id (.delete id) none

section Changes

variable {s s' : Store P} {fresh id key : String} {now : Timestamp} {enabled : Bool} {p saved : P}

theorem find?_idFor_eq_none (hfree : (Call.create fresh now p).IdFree s)
    (hid : Policy.id p ≠ "" → s.policies.contains (Policy.id p) = false) :
    s.policies.find? (idFor fresh p) = none := by
  have hcontains : s.policies.contains (idFor fresh p) = false := by
    rw [idFor]
    split
    case isTrue h => exact hfree h
    case isFalse h => exact hid h
  simpa [Registry.contains] using hcontains

theorem find?_save (p : P) (id : String) :
    (s.save p).policies.find? id = if id = Policy.id p then some p else s.policies.find? id :=
  s.policies.find?_insert (Policy.id p) id p

theorem find?_of_setEnabled (h : s.setEnabled now id enabled = .ok (saved, s')) :
    s'.policies.find? key = if key = id then some saved else s.policies.find? key := by
  obtain ⟨stored, hstored, ⟨-, rfl, rfl⟩ | ⟨-, -, rfl⟩⟩ :=
    (s.setEnabled_eq_ok_iff now id enabled saved s').1 h
  · -- The policy is that way already, and what is handed out is what is stored.
    split
    case isTrue heq => rw [heq, hstored]
    case isFalse => rfl
  · exact s.policies.find?_insert id key saved

omit [Policy P] in
theorem find?_of_delete (h : s.delete id = .ok s') :
    s'.policies.find? key = if key = id then none else s.policies.find? key := by
  obtain ⟨-, rfl⟩ := (s.delete_eq_ok_iff id s').1 h
  exact s.policies.find?_erase id key

variable [LawfulPolicy P]

theorem find?_of_create (h : s.create fresh now p = .ok (saved, s')) :
    s'.policies.find? key = if key = idFor fresh p then some saved else s.policies.find? key := by
  obtain ⟨-, -, hsaved, rfl⟩ := (s.create_eq_ok_iff fresh now p saved s').1 h
  have hid : Policy.id saved = idFor fresh p := by simp [hsaved]
  rw [find?_save, hid]

theorem find?_of_update (h : s.update now p = .ok (saved, s')) :
    s'.policies.find? key = if key = Policy.id p then some saved else s.policies.find? key := by
  obtain ⟨stored, -, -, -, hsaved, rfl⟩ := (s.update_eq_ok_iff now p saved s').1 h
  have hid : Policy.id saved = Policy.id p := by simp [hsaved]
  rw [find?_save, hid]

theorem change_of_create (h : s.create fresh now p = .ok (saved, s')) :
    Call.Change s key (.create fresh now p) (s'.policies.find? key) := by
  obtain ⟨hpassed, hid, hsaved, -⟩ := (s.create_eq_ok_iff fresh now p saved s').1 h
  rw [find?_of_create h, hsaved]
  split
  case isTrue heq =>
    subst heq
    exact .created rfl (fun hfree => find?_idFor_eq_none hfree hid) hpassed
  case isFalse => exact .kept

theorem change_of_update (h : s.update now p = .ok (saved, s')) :
    Call.Change s key (.update now p) (s'.policies.find? key) := by
  obtain ⟨stored, hstored, hversion, hpassed, hsaved, -⟩ := (s.update_eq_ok_iff now p saved s').1 h
  rw [find?_of_update h, hsaved]
  split
  case isTrue heq =>
    subst heq
    exact .updated rfl hstored hversion hpassed
  case isFalse => exact .kept

omit [LawfulPolicy P] in
theorem change_of_setEnabled (h : s.setEnabled now id enabled = .ok (saved, s')) :
    Call.Change s key (.setEnabled now id enabled) (s'.policies.find? key) := by
  obtain ⟨stored, hstored, ⟨-, -, rfl⟩ | ⟨hne, hsaved, -⟩⟩ :=
    (s.setEnabled_eq_ok_iff now id enabled saved s').1 h
  · -- The policy is that way already.
    exact .kept
  · rw [find?_of_setEnabled h, hsaved]
    split
    case isTrue heq =>
      subst heq
      exact .switched hstored hne
    case isFalse => exact .kept

omit [LawfulPolicy P] in
theorem change_of_delete (h : s.delete id = .ok s') :
    Call.Change s key (.delete id) (s'.policies.find? key) := by
  obtain ⟨⟨stored, hstored⟩, -⟩ := (s.delete_eq_ok_iff id s').1 h
  rw [find?_of_delete h]
  split
  case isTrue heq =>
    subst heq
    exact .deleted hstored
  case isFalse => exact .kept

/-- **All that a call does to the policy under an id.** -/
theorem change_after (s : Store P) (c : Call P) (id : String) :
    Call.Change s id c ((c.after s).policies.find? id) := by
  cases hanswer : c.answer s with
  | error e =>
    rw [after_of_answer_eq_error hanswer]
    exact .kept
  | ok result =>
    rw [after_of_answer_eq_ok hanswer]
    -- Each operation has its own kind of change, and leaves the other ids alone.
    cases c with
    | create fresh now p =>
      obtain ⟨r, hr, rfl⟩ := (Except.map_eq_ok_iff _ _ _).1 hanswer
      exact change_of_create hr
    | update now p =>
      obtain ⟨r, hr, rfl⟩ := (Except.map_eq_ok_iff _ _ _).1 hanswer
      exact change_of_update hr
    | setEnabled now name enabled =>
      obtain ⟨r, hr, rfl⟩ := (Except.map_eq_ok_iff _ _ _).1 hanswer
      exact change_of_setEnabled hr
    | delete name =>
      obtain ⟨s', hs', rfl⟩ := (Except.map_eq_ok_iff _ _ _).1 hanswer
      exact change_of_delete hs'
    | get name =>
      -- Reading hands out what is stored and changes nothing.
      obtain ⟨r, -, rfl⟩ := (Except.map_eq_ok_iff _ _ _).1 hanswer
      exact .kept
    | list =>
      obtain rfl := Except.ok.inj hanswer
      exact .kept

/-! ### What holds of every policy -/

/-- Whether every policy has a property together with the id that it is filed under. -/
def Every (s : Store P) (holds : String → P → Prop) : Prop :=
  ∀ id p, s.policies.find? id = some p → holds id p

omit [Policy P] [LawfulPolicy P] in
theorem every_empty (holds : String → P → Prop) : (empty : Store P).Every holds := by
  intro id p h
  simp [empty] at h

/-- Every policy has a property after a call when those that are left have it, and those that the
call creates, replaces or switches. -/
theorem every_after {held holds : String → P → Prop} {c : Call P} (h : s.Every held)
    (hkept : ∀ id p, held id p → holds id p)
    (hcreated : ∀ fresh now p, c = .create fresh now p → (Policy.validate p).passed = true →
      holds (idFor fresh p) (Policy.stamped (Policy.withId p (idFor fresh p)) 1 now))
    (hupdated : ∀ now p stored, held (Policy.id p) stored → (Policy.validate p).passed = true →
      holds (Policy.id p) (Policy.stamped p (Policy.version stored + 1) now))
    (hswitched : ∀ now id stored enabled, held id stored →
      holds id (Policy.stamped (Policy.withEnabled stored enabled)
        (Policy.version stored + 1) now)) :
    (c.after s).Every holds := by
  intro id p hp
  have hchange := change_after s c id
  rw [hp] at hchange
  -- The kinds of change say what is stored, which is known to be the policy.
  generalize hvalue : some p = value at hchange
  cases hchange with
  | kept => exact hkept id p (h id p hvalue.symm)
  | created hid hnone hpassed =>
    obtain rfl := Option.some.inj hvalue
    subst hid
    exact hcreated _ _ _ rfl hpassed
  | updated hid hstored hversion hpassed =>
    obtain rfl := Option.some.inj hvalue
    subst hid
    exact hupdated _ _ _ (h _ _ hstored) hpassed
  | switched hstored hne =>
    obtain rfl := Option.some.inj hvalue
    exact hswitched _ _ _ _ (h _ _ hstored)
  | deleted hstored => cases hvalue

omit [LawfulPolicy P] in
/-- What every policy keeps from call to call, every policy has after a run. -/
theorem every_run {holds : String → P → Prop} {cs : List (Call P)} (h : s.Every holds)
    (hafter : ∀ t : Store P, ∀ c ∈ cs, t.Every holds → (c.after t).Every holds) :
    (s.run cs).Every holds := by
  induction cs generalizing s with
  | nil => exact h
  | cons c cs ih =>
    have hnext := hafter s c List.mem_cons_self h
    exact ih hnext fun t d hd => hafter t d (List.mem_cons_of_mem c hd)

/-- Whether every policy is filed under its own id. -/
def Filed (s : Store P) : Prop :=
  ∀ id p, s.policies.find? id = some p → Policy.id p = id

omit [LawfulPolicy P] in
theorem filed_empty : (empty : Store P).Filed :=
  every_empty _

/-- Each policy stays filed under its own id, also where one is created under an id in use. -/
theorem filed_after {c : Call P} (hfiled : s.Filed) : (c.after s).Filed := by
  refine every_after hfiled ?_ ?_ ?_ ?_
  · exact fun id p h => h
  · intro fresh now p _ _
    simp
  · intro now p stored _ _
    simp
  · intro now id stored enabled h
    simpa using h

theorem filed_run {cs : List (Call P)} (hfiled : s.Filed) : (s.run cs).Filed :=
  every_run hfiled fun _ _ _ hfiled => filed_after hfiled

/-! ### What a call hands out -/

/-- **What a call hands out is stored**, as the call leaves the store, under the id that it has. -/
theorem find?_after_of_handsOut {c : Call P} {p : P} (hfiled : s.Filed) (h : c.HandsOut s p) :
    (c.after s).policies.find? (Policy.id p) = some p := by
  obtain ⟨ps, s', hanswer, hp⟩ := h
  rw [after_of_answer_eq_ok hanswer]
  cases c with
  | create fresh now q =>
    obtain ⟨r, hr, heq⟩ := (Except.map_eq_ok_iff _ _ _).1 hanswer
    obtain ⟨rfl, rfl⟩ := Prod.mk.inj heq
    obtain rfl : p = r.1 := List.mem_singleton.1 hp
    -- What a save hands out is what it files, under its id.
    obtain ⟨-, -, -, hsaved⟩ := (s.create_eq_ok_iff fresh now q r.1 r.2).1 hr
    rw [hsaved, find?_save, if_pos rfl]
  | update now q =>
    obtain ⟨r, hr, heq⟩ := (Except.map_eq_ok_iff _ _ _).1 hanswer
    obtain ⟨rfl, rfl⟩ := Prod.mk.inj heq
    obtain rfl : p = r.1 := List.mem_singleton.1 hp
    obtain ⟨-, -, -, -, -, hsaved⟩ := (s.update_eq_ok_iff now q r.1 r.2).1 hr
    rw [hsaved, find?_save, if_pos rfl]
  | setEnabled now name enabled =>
    obtain ⟨r, hr, heq⟩ := (Except.map_eq_ok_iff _ _ _).1 hanswer
    obtain ⟨rfl, rfl⟩ := Prod.mk.inj heq
    obtain rfl : p = r.1 := List.mem_singleton.1 hp
    obtain ⟨stored, hstored, ⟨-, hsame, hkept⟩ | ⟨-, hsaved, hnew⟩⟩ :=
      (s.setEnabled_eq_ok_iff now name enabled r.1 r.2).1 hr
    · -- Nothing is saved, and what is stored is handed out.
      rw [hkept, hsame, hfiled name stored hstored, hstored]
    · -- The policy is saved under the name it was found under, which is its own id.
      have hid : Policy.id r.1 = name := by
        rw [hsaved, LawfulPolicy.id_stamped, LawfulPolicy.id_withEnabled]
        exact hfiled name stored hstored
      rw [hnew, Registry.find?_insert, if_pos hid]
  | delete name =>
    obtain ⟨s'', -, heq⟩ := (Except.map_eq_ok_iff _ _ _).1 hanswer
    obtain ⟨rfl, rfl⟩ := Prod.mk.inj heq
    -- A deletion hands out nothing.
    exact absurd hp List.not_mem_nil
  | get name =>
    obtain ⟨q, hq, heq⟩ := (Except.map_eq_ok_iff _ _ _).1 hanswer
    obtain ⟨rfl, rfl⟩ := Prod.mk.inj heq
    obtain rfl : p = q := List.mem_singleton.1 hp
    -- What was found under a name has that name for its id.
    have hstored := (s.get_eq_ok_iff name p).1 hq
    rw [hfiled name p hstored, hstored]
  | list =>
    obtain ⟨rfl, rfl⟩ := Prod.mk.inj (Except.ok.inj hanswer)
    obtain ⟨name, hstored⟩ := (s.mem_list_iff p).1 hp
    rw [hfiled name p hstored, hstored]

end Changes

end Store

end ZeroTrust
