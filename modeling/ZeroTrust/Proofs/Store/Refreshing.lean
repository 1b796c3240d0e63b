/-
  `Proofs.Store.Refreshing` — refreshes beside one another and beside saves.

  A refresh is no single step. It lists the access policies, then the sign-in
  policies, puts a snapshot of both lists in force, and reads the snapshot that is
  in force. Other refreshes and calls to either store may come between any two of
  these steps, in any order (`System.run`).

  One action does little: it takes at most one list, which is the one that the store
  has then (`System.listing_after`), and the snapshot in force changes only where a
  refresh puts its own there (`System.members_after`). A refresh that nothing comes
  between is the refresh of both stores at once (`System.run_alone`).
-/
import Mathlib.Logic.Function.Basic
import ZeroTrust.Proofs.Store.History
import ZeroTrust.Store.Snapshot

namespace ZeroTrust

/-! ### Both families -/

inductive Family where
  | access
  | signIn
  deriving DecidableEq, Repr

namespace Family

abbrev Member : Family → Type
  | access => AccessPolicy
  | signIn => SignInPolicy

instance instPolicy : (f : Family) → Policy f.Member
  | access => inferInstanceAs (Policy AccessPolicy)
  | signIn => inferInstanceAs (Policy SignInPolicy)

instance instLawfulPolicy : (f : Family) → LawfulPolicy f.Member
  | access => inferInstanceAs (LawfulPolicy AccessPolicy)
  | signIn => inferInstanceAs (LawfulPolicy SignInPolicy)

end Family

/-- The policies of a family that a snapshot has. -/
def Snapshot.members (s : Snapshot) : (f : Family) → List f.Member
  | .access => s.access
  | .signIn => s.signIn

/-! ### Refreshes -/

/-- How far a refresh has come, with what it has read. -/
inductive Refresh where
  | waiting
  | halfway (access : List AccessPolicy)
  | listed (access : List AccessPolicy) (signIn : List SignInPolicy)
  | installed
  | returned (seen : Snapshot)

namespace Refresh

/-- The list of a family that a refresh has taken and not yet put in force. -/
def listing? : Refresh → (f : Family) → Option (List f.Member)
  | halfway access, .access => some access
  | listed access _, .access => some access
  | listed _ signIn, .signIn => some signIn
  | _, _ => none

/-- Whether a refresh has put its snapshot in force. -/
def HasInstalled : Refresh → Prop
  | installed | returned _ => True
  | _ => False

end Refresh

/-- Two stores, the snapshot in force, and refreshes with numbers. -/
structure System where
  stores : (f : Family) → Store f.Member
  current : Snapshot
  refreshes : Nat → Refresh

/-- What can happen next: a call to a store, or the next step of a refresh. -/
inductive Action where
  | call (f : Family) (c : Store.Call f.Member)
  | advance (r : Nat)

namespace System

/-- Two stores without policies, a snapshot in force, and no refresh begun. -/
def start (current : Snapshot) : System where
  stores _ := .empty
  current := current
  refreshes _ := .waiting

/-- The system with a refresh come to some point. -/
def withRefresh (s : System) (r : Nat) (refresh : Refresh) : System :=
  { s with refreshes := Function.update s.refreshes r refresh }

/-- The system after the next step of a refresh. -/
def advance (s : System) (r : Nat) : System :=
  match s.refreshes r with
  | .waiting => s.withRefresh r (.halfway (s.stores .access).list)
  | .halfway access => s.withRefresh r (.listed access (s.stores .signIn).list)
  | .listed access signIn =>
    { s.withRefresh r .installed with current := .ofPolicies access signIn }
  | .installed => s.withRefresh r (.returned s.current)
  | .returned _ => s

/-- The system after an action. -/
def after (s : System) : Action → System
  | .call f c => { s with stores := Function.update s.stores f (c.after (s.stores f)) }
  | .advance r => s.advance r

def run (s : System) (actions : List Action) : System :=
  actions.foldl after s

/-- Whether an action puts the snapshot of a refresh in force. -/
def Installs (s : System) (r : Nat) : Action → Prop
  | .advance q => q = r ∧ ∃ access signIn, s.refreshes r = .listed access signIn
  | .call _ _ => False

@[simp] theorem run_nil (s : System) : s.run [] = s := rfl

@[simp] theorem run_cons (s : System) (a : Action) (as : List Action) :
    s.run (a :: as) = (s.after a).run as := rfl

@[simp] theorem run_append (s : System) (as bs : List Action) :
    s.run (as ++ bs) = (s.run as).run bs :=
  List.foldl_append

/-- A refresh that nothing comes between puts the snapshot of both stores in force and reads it. -/
theorem run_alone (s : System) (r : Nat) (h : s.refreshes r = .waiting) :
    (s.run (List.replicate 4 (.advance r))).current =
        .ofStores (s.stores .access) (s.stores .signIn) ∧
      (s.run (List.replicate 4 (.advance r))).refreshes r =
        .returned (.ofStores (s.stores .access) (s.stores .signIn)) := by
  simp [List.replicate, after, advance, withRefresh, h, Snapshot.ofStores]

/-! ### What one action changes -/

variable {s : System} {a : Action} {f : Family} {q r : Nat}

theorem stores_call_self (s : System) (c : Store.Call f.Member) :
    (s.after (.call f c)).stores f = c.after (s.stores f) :=
  Function.update_self ..

theorem stores_call_of_ne (s : System) {g : Family} {c : Store.Call g.Member} (h : f ≠ g) :
    (s.after (.call g c)).stores f = s.stores f :=
  Function.update_of_ne h ..

theorem stores_advance (s : System) (r : Nat) : (s.advance r).stores = s.stores := by
  rw [advance]
  split <;> rfl

theorem stores_run_of_advances {as : List Action} (s : System)
    (h : ∀ a ∈ as, ∃ r, a = .advance r) : (s.run as).stores = s.stores := by
  induction as generalizing s with
  | nil => rfl
  | cons a as ih =>
    obtain ⟨r, rfl⟩ := h a List.mem_cons_self
    rw [run_cons, ih _ fun b hb => h b (List.mem_cons_of_mem _ hb), after, stores_advance]

theorem refreshes_advance_of_ne (s : System) (h : q ≠ r) :
    (s.advance r).refreshes q = s.refreshes q := by
  rw [advance]
  split <;> simp [withRefresh, Function.update_of_ne h]

/-- **A list that a refresh holds was held before, or it is the one that the store has.** -/
theorem listing_after {ps : List f.Member}
    (h : ((s.after a).refreshes q).listing? f = some ps) :
    (s.refreshes q).listing? f = some ps ∨ ps = (s.stores f).list := by
  cases a with
  | call g c => exact .inl h
  | advance r =>
    by_cases hq : q = r
    · subst hq
      -- Of its own steps only the first two take a list, one of each family.
      rw [after, advance] at h
      cases hphase : s.refreshes q with
      | waiting =>
        cases f <;> simp_all [withRefresh, Refresh.listing?]
      | halfway access =>
        cases f <;> simp_all [withRefresh, Refresh.listing?]
      | listed access signIn => simp_all [withRefresh, Refresh.listing?]
      | installed => simp_all [withRefresh, Refresh.listing?]
      | returned seen => simp_all [Refresh.listing?]
    · -- A step of another refresh leaves this one where it is.
      rw [after, refreshes_advance_of_ne s hq] at h
      exact .inl h

/-- A refresh has put its snapshot in force when it had before, or the action did. -/
theorem hasInstalled_after (h : ((s.after a).refreshes r).HasInstalled) :
    (s.refreshes r).HasInstalled ∨ s.Installs r a := by
  cases a with
  | call g c => exact .inl h
  | advance q =>
    by_cases hr : r = q
    · subst hr
      rw [after, advance] at h
      cases hphase : s.refreshes r with
      | waiting => simp_all [withRefresh, Refresh.HasInstalled]
      | halfway access => simp_all [withRefresh, Refresh.HasInstalled]
      | listed access signIn => exact .inr ⟨rfl, access, signIn, hphase⟩
      | installed => exact .inl trivial
      | returned seen => exact .inl trivial
    · rw [after, refreshes_advance_of_ne s hr] at h
      exact .inl h

/-- **The snapshot in force stays, unless the action puts that of a refresh in its place**, made of
the lists that the refresh holds. -/
theorem members_after (s : System) (a : Action) (f : Family) :
    ((∀ q, ¬ s.Installs q a) ∧ (s.after a).current = s.current) ∨
      ∃ q ps, s.Installs q a ∧ (s.refreshes q).listing? f = some ps ∧
        (s.after a).current.members f = inForce ps := by
  cases a with
  | call g c => exact .inl ⟨fun q h => h, rfl⟩
  | advance r =>
    have hnone : (∀ access signIn, s.refreshes r ≠ .listed access signIn) →
        ∀ q, ¬ s.Installs q (.advance r) := by
      rintro hne q ⟨rfl, access, signIn, hphase⟩
      exact hne access signIn hphase
    -- Only a refresh that holds both lists changes the snapshot in force.
    rw [after, advance]
    cases hphase : s.refreshes r with
    | waiting => exact .inl ⟨hnone (by simp [hphase]), rfl⟩
    | halfway access => exact .inl ⟨hnone (by simp [hphase]), rfl⟩
    | listed access signIn =>
      refine .inr ⟨r, ?_⟩
      cases f with
      | access => exact ⟨access, ⟨rfl, access, signIn, hphase⟩, by rw [hphase]; rfl, rfl⟩
      | signIn => exact ⟨signIn, ⟨rfl, access, signIn, hphase⟩, by rw [hphase]; rfl, rfl⟩
    | installed => exact .inl ⟨hnone (by simp [hphase]), rfl⟩
    | returned seen => exact .inl ⟨hnone (by simp [hphase]), rfl⟩

end System

end ZeroTrust
