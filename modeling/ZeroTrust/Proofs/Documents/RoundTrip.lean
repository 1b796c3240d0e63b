/-
  `Proofs.Documents.RoundTrip` — what is saved can be loaded.

  The text of a document is parsed as the document it was made from, and the document
  is read as the value it was written from. So a tree, a policy or a bundle is loaded
  from its own text, whatever its strings and whatever the shape of its trees, as long
  as its text does not nest too deep for any document to be loaded; and if the text
  does, it is refused, not loaded as something else (`ofText_toText`).
-/
import ZeroTrust.Documents
import ZeroTrust.Proofs.Documents.ReadsBack

namespace ZeroTrust

open Json Json.Reader

/-- How many arrays and objects lie inside one another at most in the document of a text. -/
def Json.nesting (s : String) : Nat :=
  (parse? s).elim 0 depth

@[simp] theorem Json.nesting_render (v : Json) : nesting v.render = v.depth := by
  rw [nesting, parse?_render]
  rfl

theorem Tree.nesting_toText (t : Tree) : nesting t.toText = 2 * t.height := by
  rw [toText, nesting_render, depth_toJson]

/-- A reader that reads a value back from its document reads it back from its text. -/
theorem readDocument_render {α : Type} {read : Reader α} {toJson : α → Json} {a : α}
    (h : ReadsBack read toJson a) (kind : DocumentKind) :
    readDocument kind read (toJson a).render =
      if nesting (toJson a).render ≤ nestingLimit then .ok a
      else .error (.malformed kind .unreadable) := by
  rw [readDocument, Reader.run, parse?_render, nesting_render]
  show (read nestingLimit (toJson a)).mapError _ = _
  rw [h nestingLimit, ifFits]
  split <;> rfl

/-- **What is saved can be loaded**, unless its text nests too deep, and then it is refused.
Versions are numbers of sixty-four bits. -/
theorem ofText_toText :
    (∀ t : Tree, Tree.ofText t.toText =
      if nesting t.toText ≤ nestingLimit then .ok t else .error (.malformed .tree .unreadable)) ∧
    (∀ p : AccessPolicy, p.version < UInt64.size → AccessPolicy.ofText p.toText =
      if nesting p.toText ≤ nestingLimit then .ok p
      else .error (.malformed .access .unreadable)) ∧
    (∀ p : SignInPolicy, p.version < UInt64.size → SignInPolicy.ofText p.toText =
      if nesting p.toText ≤ nestingLimit then .ok p
      else .error (.malformed .signIn .unreadable)) ∧
    (∀ b : Bundle, (∀ p ∈ b.access, p.version < UInt64.size) →
      (∀ p ∈ b.signIn, p.version < UInt64.size) → Bundle.ofText b.toText =
      if nesting b.toText ≤ nestingLimit then .ok b
      else .error (.malformed .bundle .unreadable)) := by
  refine ⟨fun t => ?tree, fun p hp => ?access, fun p hp => ?signIn,
    fun b haccess hsignIn => ?bundle⟩
  case tree => exact readDocument_render t.readsBack .tree
  case access => exact readDocument_render (AccessPolicy.readsBack hp) .access
  case signIn => exact readDocument_render (SignInPolicy.readsBack hp) .signIn
  case bundle => exact readDocument_render (Bundle.readsBack haccess hsignIn) .bundle

/-! ### Documents on both sides of the limit -/

/-- Branches inside one another, so many over an innermost one. -/
def Tree.chain : Nat → Tree
  | 0 => .empty
  | n + 1 => .branch .and [chain n]

theorem Tree.height_chain (n : Nat) : (chain n).height = n + 1 := by
  induction n with
  | zero => rfl
  | succ n ih =>
    rw [chain, height, heightList, heightList, ih]
    omega

/-- A policy over a chain of branches, with a quote and a line feed in its name, an empty
destination that its kind does not ask for, and a leaf whose kind and field do not go with its
operator. -/
def savedPolicy (n : Nat) : AccessPolicy where
  id := "p-7"
  name := "night \"shift\"\n"
  priority := -100
  effect := .deny
  destinationKind := .app
  destinationCidr := some ""
  destinationApp := some "payroll"
  destinationSni := none
  root := .branch .or [.chain n, .leaf ⟨.device, .email, .cidr, "10.0.0.0/8"⟩]
  enabled := false
  gateways := .ofList ["gw-2", "gw-1"]
  version := UInt64.size - 1
  updatedAt := some .epoch

/-- A policy that admits from private addresses. -/
def savedSignIn : SignInPolicy :=
  { SignInPolicy.new "office" 10 .preAuth with root := .leaf (.ofOp .isPrivate ""), version := 1 }

/-- Both policies, and an application with a literal that is no network. -/
def savedBundle (n : Nat) : Bundle where
  access := [savedPolicy n]
  signIn := [savedSignIn]
  applications := [⟨"payroll", "Payroll", "", ["10.1.0.0/16", "ten"]⟩]

theorem depth_savedPolicy (n : Nat) : (savedPolicy n).toJson.depth = 2 * n + 5 := by
  have hroot : (savedPolicy n).root.height = n + 2 := by
    simp only [savedPolicy, Tree.height, Tree.heightList, Tree.height_chain]
    omega
  rw [AccessPolicy.depth_toJson, Tree.depth_toJson, hroot]
  omega

theorem nesting_savedBundle (n : Nat) : nesting (savedBundle n).toText = 2 * n + 7 := by
  have hsignIn : savedSignIn.toJson.depth = 3 := by
    rw [SignInPolicy.depth_toJson, Tree.depth_toJson]
    rfl
  rw [Bundle.toText, nesting_render, Bundle.depth_toJson]
  simp only [savedBundle, ofList, depth, List.map_cons, List.map_nil, depthItems,
    depth_savedPolicy, hsignIn, Application.depth_toJson]
  omega

/-- The longest chains that the policy can be loaded with, alone and in the bundle. -/
theorem ofText_toText_saved :
    AccessPolicy.ofText (savedPolicy 61).toText = .ok (savedPolicy 61) ∧
      AccessPolicy.ofText (savedPolicy 62).toText = .error (.malformed .access .unreadable) ∧
      SignInPolicy.ofText savedSignIn.toText = .ok savedSignIn ∧
      Bundle.ofText (savedBundle 60).toText = .ok (savedBundle 60) ∧
      Bundle.ofText (savedBundle 61).toText = .error (.malformed .bundle .unreadable) := by
  obtain ⟨-, haccess, hsignIn, hbundle⟩ := ofText_toText
  have hversion : ∀ n, (savedPolicy n).version < UInt64.size := fun n => by
    show UInt64.size - 1 < UInt64.size
    decide
  have hversions : ∀ n, ∀ p ∈ (savedBundle n).access, p.version < UInt64.size := by
    intro n p hp
    obtain rfl := List.mem_singleton.1 hp
    exact hversion n
  have hone : ∀ n, ∀ p ∈ (savedBundle n).signIn, p.version < UInt64.size := by
    intro n p hp
    obtain rfl := List.mem_singleton.1 hp
    decide
  have hnesting : ∀ n, nesting (savedPolicy n).toText = 2 * n + 5 := fun n => by
    rw [AccessPolicy.toText, nesting_render, depth_savedPolicy]
  refine ⟨?_, ?_, ?_, ?_, ?_⟩
  · rw [haccess _ (hversion 61), hnesting]
    rfl
  · rw [haccess _ (hversion 62), hnesting]
    rfl
  · rw [hsignIn _ (by decide), SignInPolicy.toText, nesting_render, SignInPolicy.depth_toJson,
      Tree.depth_toJson]
    rfl
  · rw [hbundle _ (hversions 60) (hone 60), nesting_savedBundle]
    rfl
  · rw [hbundle _ (hversions 61) (hone 61), nesting_savedBundle]
    rfl

end ZeroTrust
