/-
  `Proofs.Store.Keeping` — what a store makes sure of.

  Whatever is done to a store, and whether it succeeds or not, every policy in it is
  filed under its own id, which is not empty, has been counted and dated, and passes
  its checks (`Store.Kept`). No step checks all of this: creating checks a policy
  before it gives it an id, a version and a moment, and switching one checks nothing
  at all. It holds because what a store sets is not looked at by the check
  (`StampedPolicy`).
-/
import ZeroTrust.Proofs.Store.Listing

namespace ZeroTrust

/-! ### Fields that the check does not look at -/

/-- A family of policies that note the moment of a save, and whose check does not look at what a
store sets. -/
class StampedPolicy (P : Type) [Policy P] : Prop extends LawfulPolicy P where
  updatedAt_stamped (p : P) (version : Nat) (now : Timestamp) :
    Policy.updatedAt (Policy.stamped p version now) = some now
  validate_withId (p : P) (id : String) : Policy.validate (Policy.withId p id) = Policy.validate p
  validate_withEnabled (p : P) (enabled : Bool) :
    Policy.validate (Policy.withEnabled p enabled) = Policy.validate p
  validate_stamped (p : P) (version : Nat) (now : Timestamp) :
    Policy.validate (Policy.stamped p version now) = Policy.validate p

instance : StampedPolicy AccessPolicy where
  updatedAt_stamped _ _ _ := rfl
  validate_withId _ _ := rfl
  validate_withEnabled _ _ := rfl
  validate_stamped _ _ _ := rfl

instance : StampedPolicy SignInPolicy where
  updatedAt_stamped _ _ _ := rfl
  validate_withId _ _ := rfl
  validate_withEnabled _ _ := rfl
  validate_stamped _ _ _ := rfl

attribute [simp] StampedPolicy.updatedAt_stamped StampedPolicy.validate_withId
  StampedPolicy.validate_withEnabled StampedPolicy.validate_stamped

namespace Store

variable {P : Type} [Policy P]

/-! ### One policy -/

/-- Whether a policy is as a store keeps it under an id. -/
structure Kept (id : String) (p : P) : Prop where
  id_eq : Policy.id p = id
  id_ne_empty : id ≠ ""
  one_le_version : 1 ≤ Policy.version p
  updatedAt_isSome : (Policy.updatedAt p).isSome = true
  passed : (Policy.validate p).passed = true

/-- Whether the id that a call brings for a new policy, if it needs one, is not empty. -/
def Call.BringsId : Call P → Prop
  | create fresh _ p => Policy.id p = "" → fresh ≠ ""
  | _ => True

instance (c : Call P) : Decidable c.BringsId :=
  match c with
  | .create fresh _ p => inferInstanceAs (Decidable (Policy.id p = "" → fresh ≠ ""))
  | .update _ _ | .setEnabled _ _ _ | .delete _ | .get _ | .list => .isTrue trivial

theorem idFor_ne_empty {fresh : String} {now : Timestamp} {p : P}
    (h : (Call.create fresh now p).BringsId) : idFor fresh p ≠ "" := by
  rw [idFor]
  split
  case isTrue hempty => exact h hempty
  case isFalse hne => exact hne

section Saving

variable [StampedPolicy P] {id : String} {p stored : P} {now : Timestamp}

theorem kept_created (hne : id ≠ "") (hpassed : (Policy.validate p).passed = true) :
    Kept id (Policy.stamped (Policy.withId p id) 1 now) where
  id_eq := by simp
  id_ne_empty := hne
  one_le_version := by simp
  updatedAt_isSome := by simp
  passed := by simpa using hpassed

theorem kept_updated (hstored : Kept id stored) (hid : Policy.id p = id)
    (hpassed : (Policy.validate p).passed = true) :
    Kept id (Policy.stamped p (Policy.version stored + 1) now) where
  id_eq := by simpa using hid
  id_ne_empty := hstored.id_ne_empty
  one_le_version := by simp
  updatedAt_isSome := by simp
  passed := by simpa using hpassed

/-- Switching a policy checks nothing, and the policy passes its checks as before. -/
theorem kept_switched {enabled : Bool} (hstored : Kept id stored) :
    Kept id
      (Policy.stamped (Policy.withEnabled stored enabled) (Policy.version stored + 1) now) where
  id_eq := by simpa using hstored.id_eq
  id_ne_empty := hstored.id_ne_empty
  one_le_version := by simp
  updatedAt_isSome := by simp
  passed := by simpa using hstored.passed

end Saving

/-! ### Every policy -/

variable [StampedPolicy P] {s : Store P}

/-- No call leaves a policy that is not as a store keeps it. -/
theorem every_kept_after {c : Call P} (hid : c.BringsId) (h : s.Every Kept) :
    (c.after s).Every Kept := by
  refine every_after h ?_ ?_ ?_ ?_
  · exact fun id p hkept => hkept
  · rintro fresh now p rfl hpassed
    exact kept_created (idFor_ne_empty hid) hpassed
  · intro now p stored hkept hpassed
    exact kept_updated hkept rfl hpassed
  · intro now id stored enabled hkept
    exact kept_switched hkept

/-- **Whatever was done to a store**, every policy in it is filed under its own id, counted, dated
and sound, and it is listed exactly once, by priority and then by id. An id that is brought for a
new policy need not be free for that, as long as it is one. -/
theorem kept_and_listed (cs : List (Call P)) (hids : ∀ c ∈ cs, c.BringsId) :
    (∀ e ∈ (empty.run cs).policies.entries, Kept e.1 e.2) ∧
      (empty.run cs).list.Perm (empty.run cs).policies.values ∧
      (empty.run cs).list.Pairwise ListedBefore := by
  have hkept : (empty.run cs).Every Kept :=
    every_run (every_empty Kept) fun _ c hc => every_kept_after (hids c hc)
  have hfiled : (empty.run cs).Filed := fun id p hp => (hkept id p hp).id_eq
  refine ⟨fun e he => ?_, perm_list _, pairwise_list hfiled⟩
  exact hkept e.1 e.2 (((empty.run cs).policies.find?_eq_some_iff e.1 e.2).2 he)

/-- Two policies are created without ids, one of them is switched, and two that are not stored are
to be deleted and replaced. -/
def twoDrafts (p q : P) : List (Call P) :=
  [.create "b" .epoch p, .create "a" .epoch q, .setEnabled .epoch "b" false, .delete "c",
    .update .epoch p]

def twoAccessDrafts : List (Call AccessPolicy) :=
  twoDrafts (AccessPolicy.new "office" 100) (AccessPolicy.new "laboratory" 100)

def twoSignInDrafts : List (Call SignInPolicy) :=
  twoDrafts (SignInPolicy.new "at home" 100 .preAuth) (SignInPolicy.new "abroad" 100 .postAuth)

theorem kept_and_listed_twoDrafts :
    ((∀ c ∈ twoAccessDrafts, c.BringsId) ∧
      (∀ e ∈ (empty.run twoAccessDrafts).policies.entries, Kept e.1 e.2) ∧
      (empty.run twoAccessDrafts).list.Perm (empty.run twoAccessDrafts).policies.values ∧
      (empty.run twoAccessDrafts).list.Pairwise ListedBefore) ∧
    (∀ c ∈ twoSignInDrafts, c.BringsId) ∧
      (∀ e ∈ (empty.run twoSignInDrafts).policies.entries, Kept e.1 e.2) ∧
      (empty.run twoSignInDrafts).list.Perm (empty.run twoSignInDrafts).policies.values ∧
      (empty.run twoSignInDrafts).list.Pairwise ListedBefore := by
  have haccess : ∀ c ∈ twoAccessDrafts, c.BringsId := by decide +kernel
  have hsignIn : ∀ c ∈ twoSignInDrafts, c.BringsId := by decide +kernel
  exact ⟨⟨haccess, kept_and_listed twoAccessDrafts haccess⟩,
    hsignIn, kept_and_listed twoSignInDrafts hsignIn⟩

end Store

end ZeroTrust
