/-
  `Proofs.Store.LostUpdate` — no update is lost.

  A client reads a policy, changes it and saves it under the version that it read.
  From the moment the policy is handed out, the store holds that policy or, under
  its id, one of a later version; this lasts until the policy is deleted
  (`holds_or_deleted`). A version that still agrees at the save therefore means that
  nothing was saved in between (`stored_eq_of_update`).

  Versions start anew with a new policy under an id. So the version of a policy that
  was deleted can come back with another policy, and a save on top of it then goes
  through unnoticed (`update_after_recreation`).
-/
import ZeroTrust.Proofs.Store.Run

namespace ZeroTrust

namespace Store

variable {P : Type} [Policy P]

/-! ### The policy that was handed out, or a later one -/

/-- Whether the store holds a policy or, under its id, one of a later version. -/
def HoldsOrLater (s : Store P) (p : P) : Prop :=
  ∃ stored, s.policies.find? (Policy.id p) = some stored ∧
    (stored = p ∨ Policy.version p < Policy.version stored)

/-- Whether a policy is deleted in the course of some calls and one created under its id
afterwards. -/
def Recreated (s : Store P) (id : String) (calls : List (Call P)) : Prop :=
  ∃ before between rest fresh now p,
    calls = before ++ .delete id :: (between ++ .create fresh now p :: rest) ∧
      (Call.delete id).Succeeds (s.run before) ∧ idFor fresh p = id ∧
      (Call.create fresh now p).Succeeds (s.run (before ++ .delete id :: between))

variable [LawfulPolicy P] {s : Store P} {p : P}

/-- A call that is no deletion of the policy leaves it, or saves a later version. -/
theorem holdsOrLater_after {c : Call P} (hfree : c.IdFree s) (h : s.HoldsOrLater p) :
    (c.after s).HoldsOrLater p ∨
      (c = .delete (Policy.id p) ∧ (c.after s).policies.find? (Policy.id p) = none) := by
  obtain ⟨held, hheld, hlater⟩ := h
  -- A save on top of what is held counts the version up.
  have hnext : ∀ saved : P, Policy.version saved = Policy.version held + 1 →
      Policy.version p < Policy.version saved := by
    intro saved hsaved
    rcases hlater with rfl | hlater <;> omega
  have hchange := change_after s c (Policy.id p)
  generalize hvalue : (c.after s).policies.find? (Policy.id p) = value at hchange
  cases hchange with
  | kept => exact .inl ⟨held, hvalue.trans hheld, hlater⟩
  | created hid hnone =>
    -- The id is in use, so no call brings it for a new policy.
    have hnone := hnone hfree
    rw [hheld] at hnone
    cases hnone
  | updated hid hstored hversion =>
    obtain rfl := Option.some.inj (hheld.symm.trans hstored)
    exact .inl ⟨_, hvalue, .inr (hnext _ (by simp))⟩
  | switched hstored hne =>
    obtain rfl := Option.some.inj (hheld.symm.trans hstored)
    exact .inl ⟨_, hvalue, .inr (hnext _ (by simp))⟩
  | deleted hstored => exact .inr ⟨rfl, rfl⟩

/-- Where nothing is stored under an id, only creating a policy there stores something. -/
theorem none_or_created (c : Call P) {id : String} (h : s.policies.find? id = none) :
    (c.after s).policies.find? id = none ∨
      ∃ fresh now q, c = .create fresh now q ∧ idFor fresh q = id ∧ c.Succeeds s := by
  have hchange := change_after s c id
  generalize hvalue : (c.after s).policies.find? id = value at hchange
  cases hchange with
  | kept => exact .inl h
  | @created fresh now q hid hnone =>
    -- A policy is found where there was none, so the creation succeeded.
    refine .inr ⟨fresh, now, q, rfl, hid, succeeds_of_find?_ne id ?_⟩
    rw [hvalue, h]
    simp
  | updated hid hstored hversion => rw [h] at hstored; cases hstored
  | switched hstored hne => rw [h] at hstored; cases hstored
  | deleted hstored => exact .inl rfl

/-! ### Whole runs -/

/-- **Until it is deleted, a policy is held or a later version of it.** -/
theorem holds_or_deleted {cs : List (Call P)} (hfree : s.IdsFree cs) (h : s.HoldsOrLater p) :
    (s.run cs).HoldsOrLater p ∨
      ∃ before rest, cs = before ++ .delete (Policy.id p) :: rest ∧
        (Call.delete (Policy.id p)).Succeeds (s.run before) ∧
        ((Call.delete (Policy.id p)).after (s.run before)).policies.find? (Policy.id p) = none := by
  induction cs generalizing s with
  | nil => exact .inl h
  | cons c cs ih =>
    rcases holdsOrLater_after hfree.1 h with hnext | ⟨rfl, hnone⟩
    · rcases ih hfree.2 hnext with hend | ⟨before, rest, rfl, hdeleted⟩
      · exact .inl hend
      · exact .inr ⟨c :: before, rest, rfl, hdeleted⟩
    · refine .inr ⟨[], cs, rfl, succeeds_of_find?_ne (Policy.id p) ?_, hnone⟩
      obtain ⟨held, hheld, -⟩ := h
      rw [run_nil, hnone, hheld]
      simp

/-- Where nothing is stored under an id, nothing is until a policy is created there. -/
theorem none_or_createdLater (cs : List (Call P)) {id : String}
    (h : s.policies.find? id = none) :
    (s.run cs).policies.find? id = none ∨
      ∃ between rest fresh now q, cs = between ++ .create fresh now q :: rest ∧
        idFor fresh q = id ∧ (Call.create fresh now q).Succeeds (s.run between) := by
  induction cs generalizing s with
  | nil => exact .inl h
  | cons c cs ih =>
    rcases none_or_created c h with hnext | ⟨fresh, now, q, rfl, hid, hcreated⟩
    · rcases ih hnext with hend | ⟨between, rest, fresh, now, q, rfl, hcreated⟩
      · exact .inl hend
      · exact .inr ⟨c :: between, rest, fresh, now, q, rfl, hcreated⟩
    · exact .inr ⟨[], cs, fresh, now, q, rfl, hid, hcreated⟩

/-- A policy is held or a later version of it, or it was created anew, or nothing is stored. -/
theorem holds_or_recreated {cs : List (Call P)} (hfree : s.IdsFree cs) (h : s.HoldsOrLater p) :
    (s.run cs).HoldsOrLater p ∨ (s.run cs).policies.find? (Policy.id p) = none ∨
      s.Recreated (Policy.id p) cs := by
  rcases holds_or_deleted hfree h with hend | ⟨before, rest, rfl, hdeleted, hnone⟩
  · exact .inl hend
  · -- From the deletion on nothing is stored, up to the next creation.
    rcases none_or_createdLater rest hnone with hend |
      ⟨between, rest, fresh, now, q, rfl, hid, hcreated⟩
    · rw [run_append, run_cons]
      exact .inr (.inl hend)
    · refine .inr (.inr ⟨before, between, rest, fresh, now, q, rfl, hdeleted, hid, ?_⟩)
      rw [run_append, run_cons]
      exact hcreated

/-- **No update is lost**: when a policy was handed out and a save on top of its version succeeds,
that policy is the one stored at the save, unless it was deleted and one created under its id
since. -/
theorem stored_eq_of_update (before after : List (Call P)) (c : Call P) (p q : P) (now : Timestamp)
    (hfree : (empty : Store P).IdsFree (before ++ c :: after))
    (hp : c.HandsOut (empty.run before) p)
    (hid : Policy.id q = Policy.id p) (hversion : Policy.version q = Policy.version p)
    (hupdate : (Call.update now q).Succeeds (empty.run (before ++ c :: after))) :
    (empty.run (before ++ c :: after)).get (Policy.id p) = .ok p ∨
      (c.after (empty.run before)).Recreated (Policy.id p) after := by
  obtain ⟨-, -, hafter⟩ := (idsFree_append _ _ _).1 hfree
  -- The call that hands the policy out leaves it in the store.
  have hheld : (c.after (empty.run before)).HoldsOrLater p :=
    ⟨p, find?_after_of_handsOut (filed_run filed_empty) hp, .inl rfl⟩
  rw [run_append, run_cons] at hupdate ⊢
  obtain ⟨ps, s', hanswer⟩ := hupdate
  obtain ⟨r, hr, -⟩ := (Except.map_eq_ok_iff _ _ _).1 hanswer
  obtain ⟨stored, hstored, hsame, -⟩ := (update_eq_ok_iff _ now q r.1 r.2).1 hr
  rw [hid] at hstored
  rcases holds_or_recreated hafter hheld with ⟨held, hfind, hlater⟩ | hnone | hrecreated
  · obtain rfl := Option.some.inj (hfind.symm.trans hstored)
    -- A later version would not agree with the one that is saved.
    rcases hlater with rfl | hlater
    · exact .inl ((get_eq_ok_iff _ _ _).2 hfind)
    · omega
  · -- A save on top of nothing does not succeed.
    rw [hnone] at hstored
    cases hstored
  · exact .inr hrecreated

/-! ### Two policies under one id -/

/-- Noon of a day in May. -/
def noon : Timestamp := ⟨⟨2024, 5, 1, by decide⟩, 12, 0, 0, 0, by decide⟩

/-- A policy under a short id, not saved yet. -/
def draft (name : String) : AccessPolicy :=
  { AccessPolicy.new name 100 with id := "a" }

/-- The policy as it is after its first save. -/
def firstSave (name : String) : AccessPolicy :=
  Policy.stamped (draft name) 1 noon

/-- A change to the saved policy, on top of its version. -/
def edited : AccessPolicy :=
  { firstSave "office" with priority := 7 }

/-- Listing policies and failing to switch another one does not come between reading and saving. -/
theorem stored_eq_of_update_after_get :
    (Call.update noon edited).Succeeds
        (empty.run [.create "" noon (draft "office"), .get "a", .list,
          .setEnabled noon "b" false]) ∧
      ((empty.run [.create "" noon (draft "office"), .get "a", .list,
          .setEnabled noon "b" false]).get "a" = .ok (firstSave "office") ∨
        ((Call.get "a").after (empty.run [.create "" noon (draft "office")])).Recreated "a"
          [.list, .setEnabled noon "b" false]) := by
  have hupdate : (Call.update noon edited).Succeeds
      (empty.run [.create "" noon (draft "office"), .get "a", .list,
        .setEnabled noon "b" false]) := by
    decide +kernel
  exact ⟨hupdate, stored_eq_of_update [.create "" noon (draft "office")]
    [.list, .setEnabled noon "b" false] (.get "a") (firstSave "office") edited noon
    (by decide +kernel) (by decide +kernel) rfl rfl hupdate⟩

/-- A policy that was deleted and created anew is overwritten by a save on top of the old one: the
version that the first creation handed out is that of the second, too. -/
theorem update_after_recreation :
    (Call.create "" noon (draft "office")).HandsOut empty (firstSave "office") ∧
      Policy.id edited = Policy.id (firstSave "office") ∧
      Policy.version edited = Policy.version (firstSave "office") ∧
      (Call.update noon edited).Succeeds
        (empty.run [.create "" noon (draft "office"), .delete "a",
          .create "" noon (draft "laboratory")]) ∧
      (empty.run [.create "" noon (draft "office"), .delete "a",
        .create "" noon (draft "laboratory")]).get "a" = .ok (firstSave "laboratory") ∧
      firstSave "laboratory" ≠ firstSave "office" := by
  refine ⟨by decide +kernel, rfl, rfl, by decide +kernel, ?_, by decide +kernel⟩
  rw [get_eq_ok_iff]
  decide +kernel

end Store

end ZeroTrust
