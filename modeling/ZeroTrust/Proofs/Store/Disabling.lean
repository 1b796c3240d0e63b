/-
  `Proofs.Store.Disabling` — a disabled policy is as good as a deleted one.

  Stores, snapshots and gateways each sort policies for themselves. What a store lists
  is in the order of a snapshot already, because each policy is filed under its own id
  (`Store.filed_of_reachable`), so the snapshot of a store is its list without the
  disabled policies (`Store.inForce_list`).

  A disabled policy stands in the list of its store and nowhere else. Deleting it
  takes nothing from what is enabled (`Store.filter_list_erase`), and a store in which
  it was disabled first is the same after deleting it (`Store.erase_of_setEnabled`).
  So disabling and deleting come to the same snapshots, decisions and rules
  (`ofStores_eq_and_disabled_as_deleted`).
-/
import ZeroTrust.Proofs.Policy.Rearranging
import ZeroTrust.Proofs.Store.History
import ZeroTrust.Proofs.Store.Keeping

namespace ZeroTrust

/-! ### Registries -/

namespace Registry

variable {α : Type}

theorem eraseEntry_insertEntry (name : String) (a : α) (es : List (String × α)) :
    eraseEntry name (insertEntry name a es) = eraseEntry name es := by
  induction es with
  | nil => simp [insertEntry, eraseEntry]
  | cons e es ih =>
    simp only [insertEntry]
    split
    · simp [eraseEntry]
    · split
      case isTrue heq => simp [eraseEntry, heq]
      case isFalse =>
        simp only [eraseEntry, List.filter_cons] at ih ⊢
        rw [ih]

/-- Erasing undoes filing under a name that is erased anyway. -/
theorem erase_insert (r : Registry α) (name : String) (a : α) :
    (r.insert name a).erase name = r.erase name :=
  ext (eraseEntry_insertEntry name a r.entries)

/-- Erasing a value that does not count takes nothing from those that do. -/
theorem filter_values_erase {r : Registry α} {name : String} {a : α} (h : r.find? name = some a)
    {counts : α → Bool} (ha : counts a = false) :
    (r.erase name).values.filter counts = r.values.filter counts := by
  have hentries : (eraseEntry name r.entries).filter (counts ∘ Prod.snd) =
      r.entries.filter (counts ∘ Prod.snd) := by
    rw [eraseEntry, List.filter_filter]
    refine List.filter_congr fun e he => ?_
    by_cases hname : e.1 = name
    · -- There is one value under the name.
      have hfind : r.find? name = some e.2 := (r.find?_eq_some_iff name e.2).2 (by rwa [← hname])
      obtain rfl := Option.some.inj (h.symm.trans hfind)
      simp [ha]
    · simp [hname]
  rw [values, values, List.filter_map, List.filter_map]
  exact congrArg (List.map Prod.snd) hentries

end Registry

namespace Store

variable {P : Type} [Policy P] {s s' : Store P}

/-! ### The snapshot of a store -/

/-- Whether some calls to the empty store leave a store. -/
def Reachable (s : Store P) : Prop :=
  ∃ calls, s = empty.run calls

variable [LawfulPolicy P] in
theorem filed_of_reachable (h : s.Reachable) : s.Filed := by
  obtain ⟨calls, rfl⟩ := h
  exact filed_run filed_empty

/-- **What a store lists is in the order in which policies are consulted**, so what is in force is
the list without the disabled policies. -/
theorem inForce_list (hfiled : s.Filed) : inForce s.list = s.list.filter Policy.enabled := by
  refine List.mergeSort_of_pairwise ((pairwise_list hfiled).filter _ |>.imp ?_)
  intro p q h
  rw [Policy.precedes_iff]
  rcases h with hlt | ⟨heq, hid⟩
  · exact .inl (Int32.lt_iff_toInt_lt.1 hlt)
  · -- Where priorities are equal the store lists by id, and so does a snapshot.
    have hnot : ¬Policy.id q < Policy.id p :=
      fun hgt => String.lt_irrefl _ (String.lt_trans hid hgt)
    exact .inr ⟨by rw [heq], String.not_lt.1 hnot⟩

/-! ### Disabling and deleting -/

/-- Deleting a disabled policy takes nothing from the enabled ones. -/
theorem filter_list_erase {id : String} {p : P} (hp : s.policies.find? id = some p)
    (hdisabled : Policy.enabled p = false) :
    (Store.mk (s.policies.erase id)).list.filter Policy.enabled =
      s.list.filter Policy.enabled := by
  rw [list, list, filter_mergeSort priority_trans priority_total,
    filter_mergeSort priority_trans priority_total, Registry.filter_values_erase hp hdisabled]

/-- Once a policy is deleted, it does not matter that it was switched before. -/
theorem erase_of_setEnabled {now : Timestamp} {id : String} {enabled : Bool} {saved : P}
    (h : s.setEnabled now id enabled = .ok (saved, s')) :
    s'.policies.erase id = s.policies.erase id := by
  obtain ⟨stored, -, ⟨-, -, rfl⟩ | ⟨-, -, rfl⟩⟩ :=
    (s.setEnabled_eq_ok_iff now id enabled saved s').1 h
  · rfl
  · exact s.policies.erase_insert id saved

end Store

/-- A family of policies that are as enabled as a save switched them. -/
class SwitchedPolicy (P : Type) [Policy P] : Prop extends LawfulPolicy P where
  enabled_switched (p : P) (enabled : Bool) (version : Nat) (now : Timestamp) :
    Policy.enabled (Policy.stamped (Policy.withEnabled p enabled) version now) = enabled

instance : SwitchedPolicy AccessPolicy where
  enabled_switched _ _ _ _ := rfl

instance : SwitchedPolicy SignInPolicy where
  enabled_switched _ _ _ _ := rfl

namespace Store

variable {P : Type} [Policy P] [SwitchedPolicy P] {s s' : Store P}

theorem enabled_of_setEnabled {now : Timestamp} {id : String} {enabled : Bool} {saved : P}
    (h : s.setEnabled now id enabled = .ok (saved, s')) : Policy.enabled saved = enabled := by
  obtain ⟨stored, -, ⟨hsame, rfl, -⟩ | ⟨-, rfl, -⟩⟩ :=
    (s.setEnabled_eq_ok_iff now id enabled saved s').1 h
  · exact hsame
  · exact SwitchedPolicy.enabled_switched stored enabled _ now

/-- **A stored policy can be disabled and it can be deleted, and what is in force after the one is
what is in force after the other.** -/
theorem exists_disabled_and_deleted {id : String} (h : s.policies.contains id = true)
    (now : Timestamp) :
    ∃ saved disabled deleted, s.setEnabled now id false = .ok (saved, disabled) ∧
      s.delete id = .ok deleted ∧ inForce disabled.list = inForce deleted.list := by
  obtain ⟨stored, hstored⟩ := Option.isSome_iff_exists.1 h
  obtain ⟨saved, disabled, hswitch⟩ : ∃ saved disabled,
      s.setEnabled now id false = .ok (saved, disabled) := by
    by_cases hsame : Policy.enabled stored = false
    · -- It is disabled already, and the store stays as it is.
      exact ⟨stored, s,
        (s.setEnabled_eq_ok_iff now id false _ _).2 ⟨stored, hstored, .inl ⟨hsame, rfl, rfl⟩⟩⟩
    · exact ⟨_, _,
        (s.setEnabled_eq_ok_iff now id false _ _).2 ⟨stored, hstored, .inr ⟨hsame, rfl, rfl⟩⟩⟩
  have hfound : disabled.policies.find? id = some saved := by
    rw [find?_of_setEnabled hswitch, if_pos rfl]
  refine ⟨saved, disabled, ⟨s.policies.erase id⟩, hswitch,
    (s.delete_eq_ok_iff id _).2 ⟨⟨stored, hstored⟩, rfl⟩, ?_⟩
  -- Deleting it from the store in which it was disabled gives the store without it as well.
  rw [inForce, inForce, ← filter_list_erase hfound (enabled_of_setEnabled hswitch),
    erase_of_setEnabled hswitch]

end Store

/-! ### Two stores -/

/-- Gateways take their policies from those in force, so two listings with the same in force come to
the same. -/
theorem SameResults.of_inForce {access access' : List AccessPolicy}
    {signIn signIn' : List SignInPolicy} (haccess : inForce access = inForce access')
    (hsignIn : inForce signIn = inForce signIn') : SameResults access access' signIn signIn' := by
  refine sameResults_of_inForce_eq haccess hsignIn fun o => ?_
  rw [Gateway.deployed_eq_filter_inForce, Gateway.deployed_eq_filter_inForce, haccess]

/-- **Snapshots follow the lists of the stores, and disabled is as good as deleted.** The snapshot
of two stores has the enabled policies of each as the store lists them. Any stored policy can be
disabled and it can be deleted, and both come to the same: the same snapshot, the same decision on
every request with the same trace, and the same rules or refusal from the compiler. -/
theorem ofStores_eq_and_disabled_as_deleted (access : Store AccessPolicy)
    (signIn : Store SignInPolicy) (haccess : access.Reachable) (hsignIn : signIn.Reachable) :
    Snapshot.ofStores access signIn =
      ⟨access.list.filter Policy.enabled, signIn.list.filter Policy.enabled⟩ ∧
    (∀ id now, access.policies.contains id = true →
      ∃ saved disabled deleted, access.setEnabled now id false = .ok (saved, disabled) ∧
        access.delete id = .ok deleted ∧
        SameResults disabled.list deleted.list signIn.list signIn.list) ∧
    ∀ id now, signIn.policies.contains id = true →
      ∃ saved disabled deleted, signIn.setEnabled now id false = .ok (saved, disabled) ∧
        signIn.delete id = .ok deleted ∧
        SameResults access.list access.list disabled.list deleted.list := by
  refine ⟨?_, fun id now h => ?_, fun id now h => ?_⟩
  · rw [Snapshot.ofStores, Snapshot.ofPolicies,
      Store.inForce_list (Store.filed_of_reachable haccess),
      Store.inForce_list (Store.filed_of_reachable hsignIn)]
  · obtain ⟨saved, disabled, deleted, hdisabled, hdeleted, hsame⟩ :=
      Store.exists_disabled_and_deleted h now
    exact ⟨saved, disabled, deleted, hdisabled, hdeleted, SameResults.of_inForce hsame rfl⟩
  · obtain ⟨saved, disabled, deleted, hdisabled, hdeleted, hsame⟩ :=
      Store.exists_disabled_and_deleted h now
    exact ⟨saved, disabled, deleted, hdisabled, hdeleted, SameResults.of_inForce rfl hsame⟩

/-- Of two policies that were created in each store one is disabled, and the other one is left to be
disabled or deleted. -/
theorem ofStores_eq_and_disabled_as_deleted_twoDrafts :
    ((Store.empty.run Store.twoAccessDrafts).policies.values.map Policy.enabled = [true, false] ∧
      (Store.empty.run Store.twoAccessDrafts).policies.contains "a" = true ∧
      (Store.empty.run Store.twoSignInDrafts).policies.contains "a" = true) ∧
    Snapshot.ofStores (Store.empty.run Store.twoAccessDrafts)
        (Store.empty.run Store.twoSignInDrafts) =
      ⟨(Store.empty.run Store.twoAccessDrafts).list.filter Policy.enabled,
        (Store.empty.run Store.twoSignInDrafts).list.filter Policy.enabled⟩ ∧
    (∃ saved disabled deleted,
      (Store.empty.run Store.twoAccessDrafts).setEnabled .epoch "a" false =
        .ok (saved, disabled) ∧
      (Store.empty.run Store.twoAccessDrafts).delete "a" = .ok deleted ∧
      SameResults disabled.list deleted.list (Store.empty.run Store.twoSignInDrafts).list
        (Store.empty.run Store.twoSignInDrafts).list) ∧
    ∃ saved disabled deleted,
      (Store.empty.run Store.twoSignInDrafts).setEnabled .epoch "a" false =
        .ok (saved, disabled) ∧
      (Store.empty.run Store.twoSignInDrafts).delete "a" = .ok deleted ∧
      SameResults (Store.empty.run Store.twoAccessDrafts).list
        (Store.empty.run Store.twoAccessDrafts).list disabled.list deleted.list := by
  have henabled : (Store.empty.run Store.twoAccessDrafts).policies.values.map Policy.enabled =
      [true, false] := by decide +kernel
  have haccess : (Store.empty.run Store.twoAccessDrafts).policies.contains "a" = true := by
    decide +kernel
  have hsignIn : (Store.empty.run Store.twoSignInDrafts).policies.contains "a" = true := by
    decide +kernel
  obtain ⟨hsnapshot, hforAccess, hforSignIn⟩ :=
    ofStores_eq_and_disabled_as_deleted (Store.empty.run Store.twoAccessDrafts)
      (Store.empty.run Store.twoSignInDrafts) ⟨_, rfl⟩ ⟨_, rfl⟩
  exact ⟨⟨henabled, haccess, hsignIn⟩, hsnapshot, hforAccess "a" .epoch haccess,
    hforSignIn "a" .epoch hsignIn⟩

end ZeroTrust
