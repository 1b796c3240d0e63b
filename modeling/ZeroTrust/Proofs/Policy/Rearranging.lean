/-
  `Proofs.Policy.Rearranging` — the order of a listing does not count.

  Policies that are in force are sorted by priority and id. Where the two tell the
  enabled policies of a list apart (`Policy.Distinguished`), sorting gives one list
  for all orders in which they may be listed (`mergeSort_eq_of_perm`). Policies that
  are left out before sorting may be put in and taken out anywhere (`Inserted`).

  Snapshots and gateways sort for themselves, each after leaving out policies of its
  own. Both come out the same (`inForce_eq_of_perm`, `Gateway.deployed_eq_of_perm`),
  and with them all decisions, their traces, and what compiling gives, be it rules or
  a refusal (`sameResults_of_rearranged`).
-/
import ZeroTrust.Proofs.Gateway.Agreement

namespace ZeroTrust

/-! ### Members that do not count -/

/-- Whether the second list is the first with members put in, anywhere, that do not count. -/
inductive Inserted {α : Type} (counts : α → Bool) : List α → List α → Prop where
  | nil : Inserted counts [] []
  | keep (a : α) {xs ys : List α} : Inserted counts xs ys → Inserted counts (a :: xs) (a :: ys)
  | insert {a : α} (h : counts a = false) {xs ys : List α} :
    Inserted counts xs ys → Inserted counts xs (a :: ys)

theorem Inserted.filter_eq {α : Type} {counts : α → Bool} {xs ys : List α}
    (h : Inserted counts xs ys) : xs.filter counts = ys.filter counts := by
  induction h with
  | nil => rfl
  | keep a _ ih => rw [List.filter_cons, List.filter_cons, ih]
  | insert ha _ ih => rw [List.filter_cons_of_neg (by simp [ha]), ih]

/-- A member that does not count may stand at any one place. -/
theorem inserted_middle {α : Type} {counts : α → Bool} (a : α) (h : counts a = false)
    (front back : List α) : Inserted counts (front ++ back) (front ++ a :: back) := by
  have hself : ∀ xs : List α, Inserted counts xs xs := by
    intro xs
    induction xs with
    | nil => exact .nil
    | cons b xs ih => exact .keep b ih
  induction front with
  | nil => exact .insert h (hself back)
  | cons b front ih => exact .keep b ih

/-! ### Sorted policies -/

namespace Policy

variable {P : Type} [Policy P]

/-- Whether priority and id tell the enabled policies of a list apart. The same policy may be listed
more than once. -/
def Distinguished (policies : List P) : Prop :=
  ∀ p ∈ policies, ∀ q ∈ policies, enabled p = true → enabled q = true →
    priority p = priority q → id p = id q → p = q

instance [DecidableEq P] (policies : List P) : Decidable (Distinguished policies) :=
  inferInstanceAs (Decidable (∀ p ∈ policies, ∀ q ∈ policies, enabled p = true →
    enabled q = true → priority p = priority q → id p = id q → p = q))

theorem priority_eq_and_id_eq_of_precedes {p q : P} (hpq : precedes p q = true)
    (hqp : precedes q p = true) : priority p = priority q ∧ id p = id q := by
  rw [precedes_iff] at hpq hqp
  rcases hpq with hlt | ⟨hpriority, hid⟩
  · rcases hqp with hgt | ⟨heq, -⟩ <;> omega
  · rcases hqp with hgt | ⟨-, hid'⟩
    · omega
    · exact ⟨Int32.toInt_inj.1 hpriority, String.le_antisymm hid hid'⟩

/-- **Sorting gives one list for all orders** of policies that priority and id tell apart. -/
theorem mergeSort_eq_of_perm {ps qs : List P} (hperm : ps.Perm qs)
    (hkeys : ∀ p ∈ ps, ∀ q ∈ ps, priority p = priority q → id p = id q → p = q) :
    ps.mergeSort precedes = qs.mergeSort precedes := by
  have hsorted : ∀ rs : List P, (rs.mergeSort precedes).Pairwise fun p q => precedes p q = true :=
    fun rs => List.pairwise_mergeSort precedes_trans precedes_total rs
  have hsame : (ps.mergeSort precedes).Perm (qs.mergeSort precedes) :=
    ((List.mergeSort_perm ps _).trans hperm).trans (List.mergeSort_perm qs _).symm
  -- Sorted permutations differ at most in policies that go before one another.
  refine hsame.eq_of_pairwise (fun p q hp hq hpq hqp => ?_) (hsorted ps) (hsorted qs)
  obtain ⟨hpriority, hid⟩ := priority_eq_and_id_eq_of_precedes hpq hqp
  exact hkeys p (List.mem_mergeSort.1 hp) q (hperm.mem_iff.2 (List.mem_mergeSort.1 hq))
    hpriority hid

end Policy

/-! ### Policies in force -/

section InForce

variable {P : Type} [Policy P]

/-- Sorting after leaving policies out, all disabled ones among them, gives one list for all
orders. -/
theorem mergeSort_filter_eq_of_perm {counts : P → Bool}
    (hcounts : ∀ p, counts p = true → Policy.enabled p = true) {ps qs : List P}
    (hperm : ps.Perm qs) (hps : Policy.Distinguished ps) :
    (ps.filter counts).mergeSort Policy.precedes =
      (qs.filter counts).mergeSort Policy.precedes := by
  refine Policy.mergeSort_eq_of_perm (hperm.filter counts) fun p hp q hq hpriority hid => ?_
  rw [List.mem_filter] at hp hq
  exact hps p hp.1 q hq.1 (hcounts p hp.2) (hcounts q hq.2) hpriority hid

theorem inForce_eq_of_perm {ps qs : List P} (hperm : ps.Perm qs)
    (hps : Policy.Distinguished ps) : inForce ps = inForce qs :=
  mergeSort_filter_eq_of_perm (fun _ h => h) hperm hps

theorem inForce_eq_of_inserted {ps qs : List P} (h : Inserted Policy.enabled ps qs) :
    inForce ps = inForce qs := by
  rw [inForce, inForce, h.filter_eq]

end InForce

/-! ### Policies that make rules -/

namespace Gateway

theorem deployed_eq_of_perm (o : Options) {ps qs : List AccessPolicy} (hperm : ps.Perm qs)
    (hps : Policy.Distinguished ps) : deployed o ps = deployed o qs :=
  mergeSort_filter_eq_of_perm (fun _ h => (Bool.and_eq_true_iff.1 h).1) hperm hps

/-- Policies that are disabled, and policies that are for other gateways, make no rules, wherever
they are listed. -/
theorem deployed_eq_of_inserted (o : Options) {counts : AccessPolicy → Bool}
    (hcounts : ∀ p, (p.enabled && p.deployedTo o.gateway) = true → counts p = true)
    {ps qs : List AccessPolicy} (h : Inserted counts ps qs) : deployed o ps = deployed o qs := by
  -- What is deployed to the gateway is a part of what counts.
  have hfilter : ∀ rs : List AccessPolicy,
      (rs.filter counts).filter (fun p => p.enabled && p.deployedTo o.gateway) =
        rs.filter fun p => p.enabled && p.deployedTo o.gateway := by
    intro rs
    rw [List.filter_filter]
    refine List.filter_congr fun p _ => ?_
    cases hp : p.enabled && p.deployedTo o.gateway with
    | true => rw [hcounts p hp]; rfl
    | false => rfl
  rw [deployed, deployed, ← hfilter ps, h.filter_eq, hfilter qs]

theorem compile_eq_of_deployed_eq {resolve : String → Option Application} {o : Options}
    {ps qs : List AccessPolicy} (h : deployed o ps = deployed o qs) :
    compile resolve o ps = compile resolve o qs := by
  rw [compile, compile, h]

end Gateway

/-! ### Results -/

/-- Whether two listings of the policies of both families come to the same: the same snapshot, the
same decision on every request and every sign-in attempt with the same trace, and the same rules or
the same refusal from the compiler. -/
structure SameResults (access access' : List AccessPolicy) (signIn signIn' : List SignInPolicy) :
    Prop where
  snapshot : Snapshot.ofPolicies access signIn = .ofPolicies access' signIn'
  decideAccess : ∀ (e : Engine) (r : Request),
    e.decideAccess (.ofPolicies access signIn) r = e.decideAccess (.ofPolicies access' signIn') r
  decideSignIn : ∀ (e : Engine) (stage : Stage) (r : Request),
    e.decideSignIn (.ofPolicies access signIn) stage r =
      e.decideSignIn (.ofPolicies access' signIn') stage r
  compile : ∀ (resolve : String → Option Application) (o : Gateway.Options),
    Gateway.compile resolve o access = Gateway.compile resolve o access'

theorem sameResults_of_inForce_eq {access access' : List AccessPolicy}
    {signIn signIn' : List SignInPolicy} (haccess : inForce access = inForce access')
    (hsignIn : inForce signIn = inForce signIn')
    (hdeployed : ∀ o, Gateway.deployed o access = Gateway.deployed o access') :
    SameResults access access' signIn signIn' := by
  have hsnapshot : Snapshot.ofPolicies access signIn = .ofPolicies access' signIn' := by
    rw [Snapshot.ofPolicies, Snapshot.ofPolicies, haccess, hsignIn]
  exact {
    snapshot := hsnapshot
    decideAccess := fun e r => by rw [hsnapshot]
    decideSignIn := fun e stage r => by rw [hsnapshot]
    compile := fun resolve o => Gateway.compile_eq_of_deployed_eq (hdeployed o) }

/-- **The order of a listing does not count**, as long as priority and id tell the enabled policies
apart; disabled policies count nowhere, and for rules those for other gateways do not count
either. -/
theorem sameResults_of_rearranged :
    (∀ (access access' : List AccessPolicy) (signIn signIn' : List SignInPolicy),
      access.Perm access' → signIn.Perm signIn' → Policy.Distinguished access →
        Policy.Distinguished signIn → SameResults access access' signIn signIn') ∧
    (∀ (access access' : List AccessPolicy) (signIn signIn' : List SignInPolicy),
      Inserted Policy.enabled access access' → Inserted Policy.enabled signIn signIn' →
        SameResults access access' signIn signIn') ∧
    (∀ (resolve : String → Option Application) (o : Gateway.Options)
      (policies policies' : List AccessPolicy),
      Inserted (fun p => p.deployedTo o.gateway) policies policies' →
        Gateway.compile resolve o policies = Gateway.compile resolve o policies') := by
  refine ⟨?_, ?_, ?_⟩
  · intro access access' signIn signIn' haccess hsignIn hdistinct hdistinct'
    exact sameResults_of_inForce_eq (inForce_eq_of_perm haccess hdistinct)
      (inForce_eq_of_perm hsignIn hdistinct')
      fun o => Gateway.deployed_eq_of_perm o haccess hdistinct
  · intro access access' signIn signIn' haccess hsignIn
    exact sameResults_of_inForce_eq (inForce_eq_of_inserted haccess)
      (inForce_eq_of_inserted hsignIn)
      fun o => Gateway.deployed_eq_of_inserted o (fun _ h => (Bool.and_eq_true_iff.1 h).1) haccess
  · intro resolve o policies policies' h
    exact Gateway.compile_eq_of_deployed_eq
      (Gateway.deployed_eq_of_inserted o (fun _ h => (Bool.and_eq_true_iff.1 h).2) h)

/-! ### An office -/

/-- A denial that is not enabled. -/
def draftDenial : AccessPolicy :=
  { AccessPolicy.new "draft" 5 with
    effect := .deny
    enabled := false }

/-- The policies of the office listed backwards, with a disabled denial among them, and without the
one for another gateway, make the same rules. -/
theorem sameResults_of_rearranged_office :
    Policy.Distinguished Gateway.officePolicies ∧
      Gateway.compile Gateway.office.resolve .default Gateway.officePolicies.reverse =
        .ok ⟨Gateway.officeRules, Gateway.fingerprint Gateway.officeRules⟩ ∧
      Gateway.compile Gateway.office.resolve .default
          (Gateway.officePolicies.take 2 ++ draftDenial :: Gateway.officePolicies.drop 2) =
        .ok ⟨Gateway.officeRules, Gateway.fingerprint Gateway.officeRules⟩ ∧
      Gateway.compile Gateway.office.resolve .default (Gateway.officePolicies.drop 1) =
        .ok ⟨Gateway.officeRules, Gateway.fingerprint Gateway.officeRules⟩ := by
  obtain ⟨hperm, hdisabled, hforeign⟩ := sameResults_of_rearranged
  have hdistinct : Policy.Distinguished Gateway.officePolicies := by decide +kernel
  refine ⟨hdistinct, ?_, ?_, ?_⟩
  · have hsame := hperm _ _ [] [] (List.reverse_perm Gateway.officePolicies).symm (.refl [])
      hdistinct (by decide)
    rw [← hsame.compile, Gateway.compile_office]
  · have hdraft : Policy.enabled draftDenial = false := rfl
    have hsame := hdisabled _ _ [] [] (inserted_middle draftDenial hdraft
      (Gateway.officePolicies.take 2) (Gateway.officePolicies.drop 2)) .nil
    rw [← hsame.compile, List.take_append_drop, Gateway.compile_office]
  · -- The first policy is for another gateway.
    obtain ⟨remote, rest, hremote, hforeign'⟩ : ∃ remote rest,
        Gateway.officePolicies = remote :: rest ∧ remote.deployedTo none = false :=
      ⟨_, _, rfl, by decide +kernel⟩
    have hinserted : Inserted (AccessPolicy.deployedTo · none) rest (remote :: rest) :=
      inserted_middle remote hforeign' [] rest
    rw [hremote, List.drop_one, List.tail_cons, ← Gateway.compile_office, hremote]
    exact hforeign Gateway.office.resolve .default rest (remote :: rest) hinserted

end ZeroTrust
