/-
  `Proofs.Store.Operations` — when the operations of a store succeed, and with what.

  Each operation has one statement of its success, with every check it makes
  (`Store.create_eq_ok_iff`, `Store.update_eq_ok_iff`, and so on). Whatever is to be
  said of a call that succeeded follows from that statement alone.

  The fields that a store sets have to read back as they were set
  (`LawfulPolicy`), which they do in both families.
-/
import ZeroTrust.Proofs.Except
import ZeroTrust.Store.Basic

namespace ZeroTrust

/-! ### Fields that a store sets -/

/-- A family of policies whose fields read back as they were set. -/
class LawfulPolicy (P : Type) [Policy P] : Prop where
  id_withId (p : P) (id : String) : Policy.id (Policy.withId p id) = id
  id_withEnabled (p : P) (enabled : Bool) : Policy.id (Policy.withEnabled p enabled) = Policy.id p
  id_stamped (p : P) (version : Nat) (now : Timestamp) :
    Policy.id (Policy.stamped p version now) = Policy.id p
  version_stamped (p : P) (version : Nat) (now : Timestamp) :
    Policy.version (Policy.stamped p version now) = version

instance : LawfulPolicy AccessPolicy where
  id_withId _ _ := rfl
  id_withEnabled _ _ := rfl
  id_stamped _ _ _ := rfl
  version_stamped _ _ _ := rfl

instance : LawfulPolicy SignInPolicy where
  id_withId _ _ := rfl
  id_withEnabled _ _ := rfl
  id_stamped _ _ _ := rfl
  version_stamped _ _ _ := rfl

attribute [simp] LawfulPolicy.id_withId LawfulPolicy.id_withEnabled LawfulPolicy.id_stamped
  LawfulPolicy.version_stamped

/-! ### Operations -/

theorem Report.orInvalid_eq_ok_iff (report : Report) (subject : String) (u : Unit) :
    report.orInvalid subject = .ok u ↔ report.passed = true := by
  rw [orInvalid]
  split
  case isTrue h => exact ⟨fun _ => h, fun _ => rfl⟩
  case isFalse h => simp [h]

namespace Store

variable {P : Type} (s : Store P)

theorem get_eq_ok_iff (id : String) (p : P) :
    s.get id = .ok p ↔ s.policies.find? id = some p := by
  rw [get]
  cases s.policies.find? id <;> simp

theorem delete_eq_ok_iff (id : String) (s' : Store P) :
    s.delete id = .ok s' ↔
      (∃ stored, s.policies.find? id = some stored) ∧ s' = ⟨s.policies.erase id⟩ := by
  simp only [delete, Except.bind_eq_ok_iff, get_eq_ok_iff, Except.pure_eq_ok_iff,
    exists_and_right]

variable [Policy P]

/-- A new policy is saved when it passes its checks and its id, if it brings one, is not taken. -/
theorem create_eq_ok_iff (fresh : String) (now : Timestamp) (p saved : P) (s' : Store P) :
    s.create fresh now p = .ok (saved, s') ↔
      (Policy.validate p).passed = true ∧
        (Policy.id p ≠ "" → s.policies.contains (Policy.id p) = false) ∧
        saved = Policy.stamped (Policy.withId p (idFor fresh p)) 1 now ∧ s' = s.save saved := by
  simp only [create, Except.bind_eq_ok_iff, Report.orInvalid_eq_ok_iff, Except.guarded_eq_ok_iff,
    Except.pure_eq_ok_iff, Prod.mk.injEq, exists_const, not_and, Bool.not_eq_true]
  constructor
  · rintro ⟨hpassed, hid, rfl, rfl⟩
    exact ⟨hpassed, hid, rfl, rfl⟩
  · rintro ⟨hpassed, hid, rfl, rfl⟩
    exact ⟨hpassed, hid, rfl, rfl⟩

/-- A policy is replaced by one of its version that passes its checks. -/
theorem update_eq_ok_iff (now : Timestamp) (p saved : P) (s' : Store P) :
    s.update now p = .ok (saved, s') ↔
      ∃ stored, s.policies.find? (Policy.id p) = some stored ∧
        Policy.version stored = Policy.version p ∧ (Policy.validate p).passed = true ∧
        saved = Policy.stamped p (Policy.version stored + 1) now ∧ s' = s.save saved := by
  simp only [update, Except.bind_eq_ok_iff, get_eq_ok_iff, Report.orInvalid_eq_ok_iff,
    Except.guarded_eq_ok_iff, Except.pure_eq_ok_iff, Prod.mk.injEq, exists_const, ne_eq,
    Decidable.not_not]
  constructor
  · rintro ⟨stored, hstored, hversion, hpassed, rfl, rfl⟩
    exact ⟨stored, hstored, hversion, hpassed, rfl, rfl⟩
  · rintro ⟨stored, hstored, hversion, hpassed, rfl, rfl⟩
    exact ⟨stored, hstored, hversion, hpassed, rfl, rfl⟩

/-- A stored policy is switched; where it already is that way, nothing is saved. -/
theorem setEnabled_eq_ok_iff (now : Timestamp) (id : String) (enabled : Bool) (saved : P)
    (s' : Store P) :
    s.setEnabled now id enabled = .ok (saved, s') ↔
      ∃ stored, s.policies.find? id = some stored ∧
        ((Policy.enabled stored = enabled ∧ saved = stored ∧ s' = s) ∨
          (Policy.enabled stored ≠ enabled ∧
            saved = Policy.stamped (Policy.withEnabled stored enabled)
              (Policy.version stored + 1) now ∧
            s' = ⟨s.policies.insert id saved⟩)) := by
  simp only [setEnabled, Except.bind_eq_ok_iff, get_eq_ok_iff]
  refine exists_congr fun stored => and_congr_right fun _ => ?_
  split
  case isTrue h => simp [h, Except.pure_eq_ok_iff]
  case isFalse h =>
    simp only [h, Except.pure_eq_ok_iff, Prod.mk.injEq, false_and, not_false_eq_true, true_and,
      false_or, ne_eq]
    exact and_congr_right fun hsaved => by rw [hsaved]

theorem mem_list_iff (p : P) : p ∈ s.list ↔ ∃ id, s.policies.find? id = some p := by
  rw [list, List.mem_mergeSort, Registry.values, List.mem_map]
  constructor
  · rintro ⟨⟨id, p⟩, hmem, rfl⟩
    exact ⟨id, (s.policies.find?_eq_some_iff id p).2 hmem⟩
  · rintro ⟨id, hfind⟩
    exact ⟨(id, p), (s.policies.find?_eq_some_iff id p).1 hfind, rfl⟩

end Store

end ZeroTrust
