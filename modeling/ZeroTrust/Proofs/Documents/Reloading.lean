/-
  `Proofs.Documents.Reloading` — what has been loaded can be saved and loaded again.

  Readers accept more than writers write: fields may be missing or given as `null`,
  names come in any order, and what no field is called is passed over. So the text of
  a loaded value may nest deeper than the text it was loaded from. It does by one at
  most: a branch is written with its children, which takes up an array even where
  there are none, while a node may be read from an object with nothing in it.

  What a reader gives bounds what its writer needs. A tree read with room for some
  arrays and objects needs room for one more at most (`two_mul_height_le`). Its
  document has an even depth, and a policy reads its tree with even room, so the text
  of a loaded policy or bundle is never too deep. The limit itself is odd: a tree on
  its own, of sixty-four nodes below one another, is loaded from a text at the limit
  and saved to one that is refused.
-/
import ZeroTrust.Proofs.Documents.RoundTrip
import ZeroTrust.Proofs.Json.Gives

namespace ZeroTrust

open Json Json.Reader

/-! ### Trees -/

namespace Tree

theorem heightList_le_iff {n : Nat} (ts : List Tree) :
    heightList ts ≤ n ↔ ∀ t ∈ ts, t.height ≤ n := by
  induction ts with
  | nil => simp [heightList]
  | cons t ts ih => rw [heightList, Nat.max_le, ih, List.forall_mem_cons]

/-- A node is a leaf, or a branch whose children are read inside the array inside the node. -/
theorem gives_node {room : Nat} {t : Tree} (h : Gives reader room t) :
    0 < room ∧ ∀ o cs, t = branch o cs → ∀ c ∈ cs, Gives reader (room - 2) c := by
  -- What was read is known step by step; the last step puts the parts together as a node.
  obtain ⟨v, hv⟩ := h
  rw [reader_eq_node, node, Except.bind_eq_ok_iff] at hv
  obtain ⟨⟨inside, given⟩, hgiven, hv⟩ := hv
  obtain rfl := room_of_fields hgiven
  simp only [Except.bind_eq_ok_iff] at hv
  obtain ⟨connective, -, children, hchildren, condition, -, hparts⟩ := hv
  refine ⟨Nat.succ_pos inside, ?_⟩
  rintro o cs rfl c hc
  cases condition with
  -- With a condition the parts make a leaf or nothing at all, but never a branch.
  | some condition => cases children <;> cases hparts
  | none =>
    obtain ⟨-, rfl⟩ := branch.inj (Except.ok.inj hparts)
    cases children with
    | none => cases hc
    | some cs =>
      obtain ⟨innermost, rfl, hcs⟩ := gives_of_list (gives_of_optional hchildren cs rfl)
      exact hcs c hc

/-- **A tree that is read needs little more room than it was read with.** -/
theorem two_mul_height_le {t : Tree} : ∀ {room : Nat}, Gives reader room t →
    2 * t.height ≤ room + 1 := by
  induction t using Tree.induction with
  | leaf c =>
    intro room h
    have hroom := (gives_node h).1
    rw [height]
    omega
  | branch o cs ih =>
    intro room h
    obtain ⟨hroom, hcs⟩ := gives_node h
    have hheight : heightList cs ≤ (room - 1) / 2 := by
      refine (heightList_le_iff cs).2 fun c hc => ?_
      have hgives := hcs o cs rfl c hc
      have hheight := ih c hc hgives
      -- A child was read at all, so the room was not that of a bare node alone.
      have hroom := (gives_node hgives).1
      omega
    rw [height]
    omega

end Tree

/-- A tree that is read with even room, or the one that a missing tree stands for, is written within
the room. -/
theorem Tree.depth_toJson_le {t : Tree} {half : Nat} (hhalf : 0 < half)
    (h : t = .empty ∨ Gives reader (2 * half) t) : t.toJson.depth ≤ 2 * half := by
  rw [depth_toJson]
  obtain rfl | hgives := h
  · show 2 * 1 ≤ _
    omega
  · have := two_mul_height_le hgives
    omega

/-! ### Policies -/

/-- What is known of the parts of a policy that is read with some room: the tree is read inside it,
unless it is missing. -/
structure PartsRead (room : Nat) (root : Tree) (version : Nat) : Prop where
  root_eq_or_gives : ∃ inside, room = inside + 1 ∧ (root = .empty ∨ Gives Tree.reader inside root)
  version_lt : version < UInt64.size

/-- Odd room for a policy is even room for its tree, so the policy is written within it. -/
theorem PartsRead.depth_le {root : Tree} {version half : Nat} (hhalf : 0 < half)
    (h : PartsRead (2 * half + 1) root version) : 1 + root.toJson.depth ≤ 2 * half + 1 := by
  obtain ⟨inside, hroom, hroot⟩ := h.root_eq_or_gives
  obtain rfl : inside = 2 * half := by omega
  have hdepth := Tree.depth_toJson_le hhalf hroot
  omega

theorem AccessPolicy.partsRead {room : Nat} {p : AccessPolicy} (h : Gives reader room p) :
    PartsRead room p.root p.version := by
  obtain ⟨v, hv⟩ := h
  obtain ⟨⟨inside, given⟩, hgiven, hv⟩ := (Except.bind_eq_ok_iff _ _ _).1 hv
  simp only [Except.bind_eq_ok_iff, Except.pure_eq_ok_iff] at hv
  obtain ⟨_, -, _, -, _, -, _, -, _, -, _, -, _, -, _, -, root, hroot, _, -, _, -, version,
    hversion, _, -, rfl⟩ := hv
  exact ⟨⟨inside, room_of_fields hgiven, eq_or_gives_of_withDefault hroot⟩,
    lt_of_withDefault_nat hversion⟩

theorem SignInPolicy.partsRead {room : Nat} {p : SignInPolicy} (h : Gives reader room p) :
    PartsRead room p.root p.version := by
  obtain ⟨v, hv⟩ := h
  obtain ⟨⟨inside, given⟩, hgiven, hv⟩ := (Except.bind_eq_ok_iff _ _ _).1 hv
  simp only [Except.bind_eq_ok_iff, Except.pure_eq_ok_iff] at hv
  obtain ⟨_, -, _, -, _, -, _, -, _, -, root, hroot, _, -, version, hversion, _, -, rfl⟩ := hv
  exact ⟨⟨inside, room_of_fields hgiven, eq_or_gives_of_withDefault hroot⟩,
    lt_of_withDefault_nat hversion⟩

theorem AccessPolicy.depth_toJson_le {p : AccessPolicy} {half : Nat} (hhalf : 0 < half)
    (h : Gives reader (2 * half + 1) p) : p.toJson.depth ≤ 2 * half + 1 := by
  rw [depth_toJson]
  exact (partsRead h).depth_le hhalf

theorem SignInPolicy.depth_toJson_le {p : SignInPolicy} {half : Nat} (hhalf : 0 < half)
    (h : Gives reader (2 * half + 1) p) : p.toJson.depth ≤ 2 * half + 1 := by
  rw [depth_toJson]
  exact (partsRead h).depth_le hhalf

/-! ### Bundles -/

/-- The policies of a bundle are read inside the lists inside it. -/
theorem Bundle.gives_parts {room : Nat} {b : Bundle} (h : Gives reader room b) :
    (∀ p ∈ b.access, Gives AccessPolicy.reader (room - 2) p) ∧
      ∀ p ∈ b.signIn, Gives SignInPolicy.reader (room - 2) p := by
  obtain ⟨v, hread⟩ := h
  obtain ⟨⟨inside, given⟩, hgiven, hv⟩ := (Except.bind_eq_ok_iff _ _ _).1 hread
  obtain rfl := room_of_fields hgiven
  simp only [Except.bind_eq_ok_iff, Except.pure_eq_ok_iff] at hv
  obtain ⟨access, haccess, signIn, hsignIn, _, -, rfl⟩ := hv
  exact ⟨gives_of_withDefault_list haccess, gives_of_withDefault_list hsignIn⟩

theorem depth_ofList_le {α : Type} {toJson : α → Json} {items : List α} {n : Nat}
    (h : ∀ a ∈ items, (toJson a).depth ≤ n) : (ofList toJson items).depth ≤ n + 1 := by
  have hitems : depthItems (items.map toJson) ≤ n := by
    induction items with
    | nil => exact Nat.zero_le n
    | cons a items ih =>
      obtain ⟨ha, hitems⟩ := List.forall_mem_cons.1 h
      rw [List.map_cons, depthItems]
      exact Nat.max_le.2 ⟨ha, ih hitems⟩
  rw [ofList, depth]
  omega

theorem Bundle.depth_toJson_le {b : Bundle} {half : Nat} (hhalf : 0 < half)
    (h : Gives reader (2 * half + 3) b) : b.toJson.depth ≤ 2 * half + 3 := by
  obtain ⟨haccess, hsignIn⟩ := gives_parts h
  have haccess : (ofList AccessPolicy.toJson b.access).depth ≤ 2 * half + 2 :=
    depth_ofList_le fun p hp => AccessPolicy.depth_toJson_le hhalf (haccess p hp)
  have hsignIn : (ofList SignInPolicy.toJson b.signIn).depth ≤ 2 * half + 2 :=
    depth_ofList_le fun p hp => SignInPolicy.depth_toJson_le hhalf (hsignIn p hp)
  have happlications : (ofList Application.toJson b.applications).depth ≤ 2 + 1 :=
    depth_ofList_le fun a _ => Nat.le_of_eq a.depth_toJson
  rw [depth_toJson]
  omega

/-- What is loaded was read with all the room there is. -/
theorem gives_of_readDocument {α : Type} {kind : DocumentKind} {read : Reader α} {s : String}
    {a : α} (h : readDocument kind read s = .ok a) : Gives read nestingLimit a := by
  rw [readDocument, Reader.run] at h
  cases hparse : parse? s with
  | none =>
    rw [hparse] at h
    cases h
  | some v =>
    rw [hparse] at h
    -- Only the words of an error depend on the kind of document.
    replace h : (read nestingLimit v).mapError (Error.malformed kind) = .ok a := h
    refine ⟨v, ?_⟩
    cases hread : read nestingLimit v with
    | error e =>
      rw [hread] at h
      cases h
    | ok b =>
      rw [hread] at h
      rw [show b = a from Except.ok.inj h]

/-! ### Documents that leave out what they can -/

/-- A document of a chain of branches that names no connective, and no children of the innermost
branch. -/
def Tree.bareJson : Nat → Json
  | 0 => .object []
  | n + 1 => .object [("children", .arr [bareJson n])]

theorem Tree.depth_bareJson (n : Nat) : (bareJson n).depth = 2 * n + 1 := by
  induction n with
  | zero => rfl
  | succ n ih =>
    rw [bareJson, depth_object]
    simp only [List.map_cons, List.map_nil, depthItems, depth, ih]
    omega

/-- It needs less room, by one, than the document that is written for the chain. -/
theorem Tree.reader_bareJson (n : Nat) : ∀ {room : Nat}, 2 * n < room →
    reader room (bareJson n) = .ok (chain n) := by
  induction n with
  | zero =>
    intro room h
    obtain ⟨room, rfl⟩ := Nat.exists_eq_succ_of_ne_zero (Nat.ne_of_gt h)
    rw [reader_eq_node]
    rfl
  | succ n ih =>
    intro room h
    -- The object of the node takes up one, and the array of its children another.
    obtain ⟨room, rfl⟩ := Nat.exists_eq_add_of_le' (show 2 ≤ room by omega)
    rw [reader_eq_node]
    show (do
      let children ← some <$> [bareJson n].mapM (reader room)
      ofParts .and children none) = _
    rw [List.mapM_cons, ih (by omega)]
    rfl

/-- A document of a policy over such a tree. -/
def barePolicyJson (n : Nat) : Json :=
  .object [("name", .text "guests"), ("priority", .int 10), ("effect", .text "deny"),
    ("root_node", Tree.bareJson n)]

def barePolicy (n : Nat) : AccessPolicy :=
  { AccessPolicy.new "guests" 10 with effect := .deny, root := .chain n }

theorem reader_barePolicyJson {n room : Nat} (h : 2 * n < room) :
    AccessPolicy.reader (room + 1) (barePolicyJson n) = .ok (barePolicy n) := by
  show (do
    let root ← Tree.reader room (Tree.bareJson n)
    pure { barePolicy n with root := root }) = _
  rw [Tree.reader_bareJson n h]
  rfl

/-- A document of a sign-in policy over such a tree. -/
def bareSignInJson (n : Nat) : Json :=
  .object [("name", .text "guests"), ("priority", .int 10), ("stage", .text "pre_auth"),
    ("root_node", Tree.bareJson n)]

def bareSignIn (n : Nat) : SignInPolicy :=
  { SignInPolicy.new "guests" 10 .preAuth with root := .chain n }

theorem reader_bareSignInJson {n room : Nat} (h : 2 * n < room) :
    SignInPolicy.reader (room + 1) (bareSignInJson n) = .ok (bareSignIn n) := by
  show (do
    let root ← Tree.reader room (Tree.bareJson n)
    pure { bareSignIn n with root := root }) = _
  rw [Tree.reader_bareJson n h]
  rfl

/-- A document of a bundle that names no list but that of the access policies. -/
def bareBundleJson (n : Nat) : Json :=
  .object [("access_policies", .arr [barePolicyJson n])]

def bareBundle (n : Nat) : Bundle :=
  ⟨[barePolicy n], [], []⟩

theorem reader_bareBundleJson {n room : Nat} (h : 2 * n < room) :
    Bundle.reader (room + 3) (bareBundleJson n) = .ok (bareBundle n) := by
  show (do
    let access ← [barePolicyJson n].mapM (AccessPolicy.reader (room + 1))
    pure (⟨access, [], []⟩ : Bundle)) = _
  rw [List.mapM_cons, reader_barePolicyJson h]
  rfl

theorem readDocument_render_of_ok {α : Type} {read : Reader α} {v : Json} {a : α}
    (h : read nestingLimit v = .ok a) (kind : DocumentKind) :
    readDocument kind read v.render = .ok a := by
  rw [readDocument, Reader.run, parse?_render]
  show (read nestingLimit v).mapError _ = _
  rw [h]
  rfl

/-! ### Loading and loading again -/

/-- The limit is odd and the text of a tree nests to an even depth, so a tree of the greatest height
that is read is one too high to be read again. -/
theorem Tree.ofText_toText_of_loaded {s : String} {t : Tree} (h : ofText s = .ok t) :
    t.height ≤ 64 ∧ (t.height = 64 → nesting t.toText = 128) ∧
      ofText t.toText =
        if t.height ≤ 63 then .ok t else .error (.malformed .tree .unreadable) := by
  have hheight : 2 * t.height ≤ 127 + 1 := two_mul_height_le (gives_of_readDocument h)
  have hnesting : nesting t.toText = 2 * t.height := nesting_toText t
  have hfits : nesting t.toJson.render ≤ nestingLimit ↔ t.height ≤ 63 := by
    rw [← toText, hnesting, nestingLimit]
    omega
  refine ⟨by omega, fun h64 => by rw [hnesting, h64], ?_⟩
  refine (readDocument_render t.readsBack .tree).trans ?_
  simp only [hfits]

theorem AccessPolicy.ofText_toText_of_loaded {s : String} {p : AccessPolicy}
    (h : ofText s = .ok p) : ofText p.toText = .ok p := by
  have hgives : Gives reader (2 * 63 + 1) p := gives_of_readDocument h
  refine (readDocument_render (readsBack (partsRead hgives).version_lt) .access).trans (if_pos ?_)
  rw [nesting_render]
  exact depth_toJson_le (by decide) hgives

theorem SignInPolicy.ofText_toText_of_loaded {s : String} {p : SignInPolicy}
    (h : ofText s = .ok p) : ofText p.toText = .ok p := by
  have hgives : Gives reader (2 * 63 + 1) p := gives_of_readDocument h
  refine (readDocument_render (readsBack (partsRead hgives).version_lt) .signIn).trans (if_pos ?_)
  rw [nesting_render]
  exact depth_toJson_le (by decide) hgives

theorem Bundle.ofText_toText_of_loaded {s : String} {b : Bundle} (h : ofText s = .ok b) :
    ofText b.toText = .ok b := by
  -- A bundle lies two deeper than its policies, so these are read with odd room as well.
  have hgives : Gives reader (2 * 62 + 3) b := gives_of_readDocument h
  obtain ⟨haccess, hsignIn⟩ := gives_parts hgives
  have haccess : ∀ p ∈ b.access, p.version < UInt64.size :=
    fun p hp => (AccessPolicy.partsRead (haccess p hp)).version_lt
  have hsignIn : ∀ p ∈ b.signIn, p.version < UInt64.size :=
    fun p hp => (SignInPolicy.partsRead (hsignIn p hp)).version_lt
  refine (readDocument_render (readsBack haccess hsignIn) .bundle).trans (if_pos ?_)
  rw [nesting_render]
  exact depth_toJson_le (by decide) hgives

/-- **What has been loaded can be saved and loaded again**, except for trees of sixty-four nodes
below one another. No higher tree can be loaded, and the text of such a tree nests too deep by one:
a hundred and twenty-eight arrays and objects. -/
theorem ofText_toText_of_ofText :
    (∀ s t, Tree.ofText s = .ok t → t.height ≤ 64 ∧
      (t.height = 64 → nesting t.toText = 128) ∧
      Tree.ofText t.toText =
        if t.height ≤ 63 then .ok t else .error (.malformed .tree .unreadable)) ∧
    (∀ s p, AccessPolicy.ofText s = .ok p → AccessPolicy.ofText p.toText = .ok p) ∧
    (∀ s p, SignInPolicy.ofText s = .ok p → SignInPolicy.ofText p.toText = .ok p) ∧
    (∀ s b, Bundle.ofText s = .ok b → Bundle.ofText b.toText = .ok b) :=
  ⟨fun _ _ => Tree.ofText_toText_of_loaded, fun _ _ => AccessPolicy.ofText_toText_of_loaded,
    fun _ _ => SignInPolicy.ofText_toText_of_loaded, fun _ _ => Bundle.ofText_toText_of_loaded⟩

/-- Bare documents are loaded, and the texts of what they hold are deeper than theirs but are loaded
again: sixty-three nodes below one another, alone and in a policy, and sixty-two in a bundle. -/
theorem ofText_toText_of_ofText_bare :
    (Tree.ofText (Tree.bareJson 62).render = .ok (.chain 62) ∧
      Tree.ofText (Tree.chain 62).toText = .ok (.chain 62)) ∧
    (AccessPolicy.ofText (barePolicyJson 62).render = .ok (barePolicy 62) ∧
      AccessPolicy.ofText (barePolicy 62).toText = .ok (barePolicy 62)) ∧
    (SignInPolicy.ofText (bareSignInJson 62).render = .ok (bareSignIn 62) ∧
      SignInPolicy.ofText (bareSignIn 62).toText = .ok (bareSignIn 62)) ∧
    (Bundle.ofText (bareBundleJson 61).render = .ok (bareBundle 61) ∧
      Bundle.ofText (bareBundle 61).toText = .ok (bareBundle 61)) := by
  obtain ⟨htree, haccess, hsignIn, hbundle⟩ := ofText_toText_of_ofText
  have tree := readDocument_render_of_ok (Tree.reader_bareJson 62 (by decide)) .tree
  have access := readDocument_render_of_ok
    (reader_barePolicyJson (show 2 * 62 < 126 by decide)) .access
  have signIn := readDocument_render_of_ok
    (reader_bareSignInJson (show 2 * 62 < 126 by decide)) .signIn
  have bundle := readDocument_render_of_ok
    (reader_bareBundleJson (show 2 * 61 < 124 by decide)) .bundle
  refine ⟨⟨tree, ?_⟩, ⟨access, haccess _ _ access⟩, ⟨signIn, hsignIn _ _ signIn⟩,
    ⟨bundle, hbundle _ _ bundle⟩⟩
  rw [(htree _ _ tree).2.2, Tree.height_chain]
  rfl

/-- **A tree that is loaded from a text at the limit and cannot be saved and loaded again.** -/
theorem ofText_toText_chain :
    nesting (Tree.bareJson 63).render = 127 ∧
      Tree.ofText (Tree.bareJson 63).render = .ok (.chain 63) ∧
      nesting (Tree.chain 63).toText = 128 ∧
      Tree.ofText (Tree.chain 63).toText = .error (.malformed .tree .unreadable) := by
  have hnesting : nesting (Tree.chain 63).toText = 128 := by
    rw [Tree.nesting_toText, Tree.height_chain]
  refine ⟨?_, ?_, hnesting, ?_⟩
  · rw [nesting_render, Tree.depth_bareJson]
  · exact readDocument_render_of_ok (Tree.reader_bareJson 63 (by decide)) .tree
  · refine (readDocument_render (Tree.chain 63).readsBack .tree).trans (if_neg ?_)
    show ¬ nesting (Tree.chain 63).toText ≤ nestingLimit
    rw [hnesting]
    decide

end ZeroTrust
