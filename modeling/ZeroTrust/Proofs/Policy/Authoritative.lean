/-
  `Proofs.Policy.Authoritative` — what of a policy does not count.

  A policy can be written in several ways that mean one thing: with blanks around its
  values, with other fields beside the operators, with values where an operator takes
  none, and with what destinations of another kind left behind. Saves count up its
  version and note the moment. `AccessPolicy.authoritative` erases all of that.

  Each place that reads a policy goes by what is left: the queries of conditions
  (`Condition.query_authoritative`) and the tags for gateways (`Gateway.tag_authoritative`),
  hence trees of any shape, and the destination (`AccessPolicy.destination_authoritative`).
  Erasing moves no policy in a sorted list (`mergeSort_filter_map_authoritative`). So
  lists that are the same once erased get the same decisions, reasons and traces
  included, and the same rules with the same fingerprint or the same refusal
  (`decideAccess_and_compile_eq_of_authoritative_eq`).
-/
import ZeroTrust.Engine.Basic
import ZeroTrust.Gateway.Compile
import ZeroTrust.Proofs.Evaluation.Boolean
import ZeroTrust.Proofs.Text.Trimming

namespace ZeroTrust

/-! ### What counts -/

/-- The condition with what does not count erased: the field is that of the operator, and the value
is trimmed, or empty where the operator takes none. -/
def Condition.authoritative (c : Condition) : Condition :=
  { c with
    field := c.op.field
    value := if c.op.takesValue then Text.trim c.value else "" }

namespace Tree

mutual

/-- The tree with a function applied to each of its conditions. -/
def mapConditions (f : Condition → Condition) : Tree → Tree
  | leaf c => leaf (f c)
  | branch o cs => branch o (mapConditionsList f cs)

/-- The trees with a function applied to each of their conditions. -/
def mapConditionsList (f : Condition → Condition) : List Tree → List Tree
  | [] => []
  | t :: ts => mapConditions f t :: mapConditionsList f ts

end

@[simp] theorem mapConditions_leaf (f : Condition → Condition) (c : Condition) :
    mapConditions f (leaf c) = leaf (f c) := by
  rw [mapConditions]

@[simp] theorem mapConditions_branch (f : Condition → Condition) (o : Connective)
    (cs : List Tree) :
    mapConditions f (branch o cs) = branch o (cs.map (mapConditions f)) := by
  -- The recursion goes through a list of its own, which is the map over the children.
  have hlist : mapConditionsList f cs = cs.map (mapConditions f) := by
    induction cs with
    | nil => rfl
    | cons c cs ih => rw [mapConditionsList, ih, List.map_cons]
  rw [mapConditions, hlist]

end Tree

/-- The policy with what does not count erased: blanks around values, the fields of its conditions,
values where an operator takes none, destinations of another kind than its own, and what saves
note. -/
def AccessPolicy.authoritative (p : AccessPolicy) : AccessPolicy :=
  { p with
    destinationCidr := if p.destinationKind = .cidr then p.destinationCidr.map Text.trim else none
    destinationApp := if p.destinationKind = .app then p.destinationApp.map Text.trim else none
    destinationSni := if p.destinationKind = .sni then p.destinationSni.map Text.trim else none
    root := p.root.mapConditions Condition.authoritative
    version := 0
    updatedAt := none }

/-! ### Trees -/

namespace Condition

variable (c : Condition)

/-- What a condition asks is read off its trimmed value, or off none, and never off its field. -/
theorem query_authoritative : c.authoritative.query = c.query := by
  obtain ⟨kind, field, op, value⟩ := c
  cases op <;> simp [authoritative, query, Op.takesValue]

theorem evaluate_authoritative (facts : Facts) :
    c.authoritative.evaluate facts = c.evaluate facts := by
  rw [evaluate, evaluate, query_authoritative]

end Condition

/-- A tree has one value for conditions in whose place others have the same values. -/
theorem Tree.evaluate_mapConditions {facts : Facts} {f : Condition → Condition}
    (hf : ∀ c, (f c).evaluate facts = c.evaluate facts) (t : Tree) :
    (t.mapConditions f).evaluate facts = t.evaluate facts := by
  induction t using Tree.induction with
  | leaf c => rw [mapConditions_leaf, evaluate, evaluate, hf]
  | branch o cs ih =>
    rw [mapConditions_branch]
    refine evaluate_branch_congr rfl ?_
    rw [List.map_map]
    exact List.map_congr_left ih

namespace Gateway

theorem tag_authoritative (c : Condition) : tag c.authoritative = tag c := by
  obtain ⟨kind, field, op, value⟩ := c
  cases op <;> simp [Condition.authoritative, tag, tagOf, Op.faultOf?, Op.takesValue]

theorem conditionTerms_authoritative (unknownAs : Bool) (c : Condition) :
    conditionTerms unknownAs c.authoritative = conditionTerms unknownAs c := by
  rw [conditionTerms, conditionTerms, tag_authoritative]

section Expand

variable {o : ExpandOptions} {f : Condition → Condition} {ts : List Tree}

theorem expandAll_mapConditions (h : ∀ t ∈ ts, expand o (t.mapConditions f) = expand o t) :
    ∀ sofar, expandAll o sofar (ts.map (Tree.mapConditions f)) = expandAll o sofar ts := by
  induction ts with
  | nil => exact fun _ => rfl
  | cons t ts ih =>
    intro sofar
    have hts := ih fun u hu => h u (List.mem_cons_of_mem _ hu)
    rw [List.map_cons, expandAll, expandAll, h t List.mem_cons_self]
    simp only [hts]

theorem expandAny_mapConditions (h : ∀ t ∈ ts, expand o (t.mapConditions f) = expand o t) :
    ∀ sofar, expandAny o sofar (ts.map (Tree.mapConditions f)) = expandAny o sofar ts := by
  induction ts with
  | nil => exact fun _ => rfl
  | cons t ts ih =>
    intro sofar
    have hts := ih fun u hu => h u (List.mem_cons_of_mem _ hu)
    rw [List.map_cons, expandAny, expandAny, h t List.mem_cons_self]
    simp only [hts]

/-- A tree has the same terms, or too many of them, for conditions in whose place others have the
same terms. -/
theorem expand_mapConditions
    (hf : ∀ c, conditionTerms o.unknownAs (f c) = conditionTerms o.unknownAs c) (t : Tree) :
    expand o (t.mapConditions f) = expand o t := by
  induction t using Tree.induction with
  | leaf c => rw [Tree.mapConditions_leaf, expand, expand, hf]
  | branch connective cs ih =>
    rw [Tree.mapConditions_branch]
    -- A disjunction over nothing is a case of its own, and stays one.
    match connective, cs, ih with
    | .and, cs, ih => rw [expand, expand, expandAll_mapConditions ih]
    | .or, [], _ => rfl
    | .or, c :: cs, ih =>
      rw [List.map_cons, expand, expand, ← List.map_cons, expandAny_mapConditions ih]

end Expand

end Gateway

/-! ### Policies -/

namespace AccessPolicy

variable (p : AccessPolicy)

theorem present?_map_trim (field : Option String) :
    present? (field.map Text.trim) = present? field := by
  cases field <;> simp [present?]

/-- The kind of the destination says which of the three fields is read, and that one is trimmed. -/
theorem destination_authoritative : p.authoritative.destination = p.destination := by
  cases h : p.destinationKind <;> simp [authoritative, destination, h, present?_map_trim]

end AccessPolicy

theorem Engine.visitAccess_authoritative (e : Engine) (facts : Facts) (p : AccessPolicy) :
    e.visitAccess facts p.authoritative = e.visitAccess facts p := by
  have hdeployed : p.authoritative.deployedTo = p.deployedTo := rfl
  have hroot : p.authoritative.root.evaluate facts = p.root.evaluate facts :=
    Tree.evaluate_mapConditions (fun c => c.evaluate_authoritative facts) p.root
  have houtcome : e.accessOutcome facts p.authoritative = e.accessOutcome facts p := by
    rw [accessOutcome, accessOutcome, p.destination_authoritative, hdeployed, hroot]
  rw [visitAccess, houtcome]
  rfl

theorem Gateway.compilePolicy_authoritative (resolve : String → Option Application) (o : Options)
    (p : AccessPolicy) : compilePolicy resolve o p.authoritative = compilePolicy resolve o p := by
  have hrule : rule p.authoritative = rule p := rfl
  have hroot : expand (expandOptions o p) p.authoritative.root =
      expand (expandOptions o p) p.root :=
    expand_mapConditions (conditionTerms_authoritative _) p.root
  have heffect : p.authoritative.effect = p.effect := rfl
  have hname : p.authoritative.name = p.name := rfl
  have hoptions : expandOptions o p.authoritative = expandOptions o p := rfl
  rw [compilePolicy, compilePolicy, p.destination_authoritative, heffect, hname, hoptions, hroot,
    hrule]

/-! ### Lists of policies -/

section Lists

variable (ps : List AccessPolicy)

/-- Erasing keeps priorities and ids, so it moves no policy in a sorted list. -/
theorem mergeSort_filter_map_authoritative {counts : AccessPolicy → Bool}
    (hcounts : ∀ p, counts p.authoritative = counts p) :
    ((ps.map AccessPolicy.authoritative).filter counts).mergeSort Policy.precedes =
      ((ps.filter counts).mergeSort Policy.precedes).map AccessPolicy.authoritative := by
  have hprecedes : ∀ p q : AccessPolicy,
      Policy.precedes p q = Policy.precedes p.authoritative q.authoritative := fun _ _ => rfl
  have hfilter : counts ∘ AccessPolicy.authoritative = counts := funext hcounts
  rw [List.map_mergeSort fun p _ q _ => hprecedes p q, List.filter_map, hfilter]

theorem inForce_map_authoritative :
    inForce (ps.map AccessPolicy.authoritative) = (inForce ps).map AccessPolicy.authoritative :=
  mergeSort_filter_map_authoritative ps fun _ => rfl

/-- Decisions on access go by what counts of the access policies, and by no sign-in policy. -/
theorem Engine.decideAccess_map_authoritative (e : Engine) (signIn signIn' : List SignInPolicy)
    (r : Request) :
    e.decideAccess (.ofPolicies (ps.map AccessPolicy.authoritative) signIn) r =
      e.decideAccess (.ofPolicies ps signIn') r := by
  -- A visit carries id, name and priority, which nothing erases, and its outcome.
  have hvisits : e.accessVisits (.ofPolicies (ps.map AccessPolicy.authoritative) signIn) r =
      e.accessVisits (.ofPolicies ps signIn') r := by
    rw [accessVisits, accessVisits, Snapshot.ofPolicies, Snapshot.ofPolicies,
      inForce_map_authoritative, List.map_map]
    exact List.map_congr_left fun p _ => e.visitAccess_authoritative (e.facts r) p
  rw [decideAccess, decideAccess, hvisits]

namespace Gateway

variable (resolve : String → Option Application) (o : Options)

theorem deployed_map_authoritative :
    deployed o (ps.map AccessPolicy.authoritative) =
      (deployed o ps).map AccessPolicy.authoritative :=
  mergeSort_filter_map_authoritative ps fun _ => rfl

theorem compileAll_map_authoritative :
    compileAll resolve o (ps.map AccessPolicy.authoritative) = compileAll resolve o ps := by
  induction ps with
  | nil => rfl
  | cons p ps ih => rw [List.map_cons, compileAll, compileAll, compilePolicy_authoritative, ih]

/-- Rules go by what counts of the policies. -/
theorem compile_map_authoritative :
    compile resolve o (ps.map AccessPolicy.authoritative) = compile resolve o ps := by
  rw [compile, compile, deployed_map_authoritative, compileAll_map_authoritative]

end Gateway

end Lists

/-- **What does not count influences nothing that is enforced.** Two lists of policies that are the
same, policy by policy, once what does not count is erased get the same decision on every request
from every engine, with the same policy, reason and trace, and the same rules with the same
fingerprint, or the same refusal, from the compiler. -/
theorem decideAccess_and_compile_eq_of_authoritative_eq (ps qs : List AccessPolicy)
    (h : ps.map AccessPolicy.authoritative = qs.map AccessPolicy.authoritative) :
    (∀ (e : Engine) (signIn signIn' : List SignInPolicy) (r : Request),
      e.decideAccess (.ofPolicies ps signIn) r = e.decideAccess (.ofPolicies qs signIn') r) ∧
    ∀ (resolve : String → Option Application) (o : Gateway.Options),
      Gateway.compile resolve o ps = Gateway.compile resolve o qs := by
  constructor
  · intro e signIn signIn' r
    rw [← e.decideAccess_map_authoritative ps signIn, h, e.decideAccess_map_authoritative qs]
  · intro resolve o
    rw [← Gateway.compile_map_authoritative ps, h, Gateway.compile_map_authoritative qs]

/-! ### Policies as typed and as tidied up -/

/-- Two policies with leftovers and blanks in them. -/
def typedPolicies : List AccessPolicy := [
  { AccessPolicy.new "archive" 20 with
    effect := .deny
    destinationKind := .cidr
    destinationCidr := some " 10.1.0.0/16\t"
    destinationSni := some "old.example.com"
    root := .branch .or [
      .leaf ⟨.network, .email, .country, "DE "⟩,
      .branch .and [
        .leaf ⟨.device, .managed, .managed, "yes"⟩,
        .leaf ⟨.device, .ip, .os, "\nlinux"⟩]]
    version := 7 },
  { AccessPolicy.new "wiki" 10 with
    destinationKind := .app
    destinationCidr := some "10.1.0.0/33"
    destinationApp := some "wiki "
    root := .leaf ⟨.user, .group, .cidr, " staff "⟩
    updatedAt := some .epoch }]

/-- The same policies without them. -/
def tidiedPolicies : List AccessPolicy := [
  { AccessPolicy.new "archive" 20 with
    effect := .deny
    destinationKind := .cidr
    destinationCidr := some "10.1.0.0/16"
    root := .branch .or [
      .leaf (.ofOp .country "DE"),
      .branch .and [.leaf (.ofOp .managed ""), .leaf (.ofOp .os "linux")]]
    updatedAt := some .epoch },
  { AccessPolicy.new "wiki" 10 with
    destinationKind := .app
    destinationApp := some "wiki"
    root := .leaf ⟨.user, .ip, .cidr, "staff"⟩
    version := 1 }]

/-- Tidying up changes both policies, and no decision and no rule. -/
theorem decideAccess_and_compile_eq_of_authoritative_eq_tidied :
    (typedPolicies.map AccessPolicy.authoritative =
        tidiedPolicies.map AccessPolicy.authoritative ∧ typedPolicies ≠ tidiedPolicies) ∧
      (∀ (e : Engine) (signIn signIn' : List SignInPolicy) (r : Request),
        e.decideAccess (.ofPolicies typedPolicies signIn) r =
          e.decideAccess (.ofPolicies tidiedPolicies signIn') r) ∧
      ∀ (resolve : String → Option Application) (o : Gateway.Options),
        Gateway.compile resolve o typedPolicies = Gateway.compile resolve o tidiedPolicies := by
  have hsame : typedPolicies.map AccessPolicy.authoritative =
      tidiedPolicies.map AccessPolicy.authoritative := by decide +kernel
  have hdiffer : typedPolicies ≠ tidiedPolicies := by decide +kernel
  exact ⟨⟨hsame, hdiffer⟩,
    decideAccess_and_compile_eq_of_authoritative_eq typedPolicies tidiedPolicies hsame⟩

end ZeroTrust
