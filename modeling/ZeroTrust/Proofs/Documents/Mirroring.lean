/-
  `Proofs.Documents.Mirroring` — a tree has the shape of the document it is read from.

  What a document says of a tree can be said without reading it. A node with a condition
  is a leaf, whatever operator it names. Any other node is a branch: its connective is
  the one named or the conjunction, and it has a child for each item of its array of
  children, in order, or none. A condition has the kind, the operator, the value and the
  field that are named, the last two unless they are missing (`Condition.Mirrors`,
  `Tree.Mirrors`). At most one tree mirrors a document (`Tree.Mirrors.unique`), and a tree
  that is read does (`Tree.mirrors_of_reader`).

  So no node that is both leaf and branch lies in a document that is read, however deep
  (`Tree.Mirrors.not_isBoth`), and every text with such a node is refused
  (`Tree.ofText_mirrors`).
-/
import ZeroTrust.Documents
import ZeroTrust.Proofs.Evaluation.Boolean
import ZeroTrust.Proofs.Json.Parts
import ZeroTrust.Proofs.Json.RoundTrip

namespace ZeroTrust

open Json Json.Reader

/-! ### Conditions -/

namespace Condition

/-- The names of the parts of a condition, in the order of an array. -/
def partNames : List String := ["type", "field", "op", "value"]

/-- Whether a condition is what a document says. -/
structure Mirrors (v : Json) (c : Condition) : Prop where
  kind : ∃ part, v.parts partNames "type" = [part] ∧ Spells Kind.name part c.kind
  op : ∃ part, v.parts partNames "op" = [part] ∧ Spells Op.name part c.op
  /-- A missing value is empty. -/
  value : v.Says partNames "value" (fun part value => part = .text value) "" c.value
  /-- A field that is missing or `null` is the one that the operator reads. -/
  field : v.Says partNames "field" (NullOr (Spells Field.name) c.op.field) c.op.field c.field

theorem mirrors_of_reader {room : Nat} {v : Json} {c : Condition} (h : reader room v = .ok c) :
    Mirrors v c := by
  obtain ⟨⟨inside, given⟩, hgiven, h⟩ := (Except.bind_eq_ok_iff _ _ _).1 h
  have hparts : ∀ name ∈ partNames, v.parts partNames name = (given.lookup name).toList :=
    fun name => parts_eq_toList_lookup (by decide) hgiven
  simp only [Except.bind_eq_ok_iff, Except.pure_eq_ok_iff] at h
  obtain ⟨kind, hkind, field, hfield, op, hop, value, hvalue, rfl⟩ := h
  obtain ⟨kindPart, hkindPart, hkind⟩ := exists_part_of_required (hparts _ (by decide)) hkind
  obtain ⟨opPart, hopPart, hop⟩ := exists_part_of_required (hparts _ (by decide)) hop
  exact {
    kind := ⟨kindPart, hkindPart, spells_of_word hkind⟩
    op := ⟨opPart, hopPart, spells_of_word hop⟩
    value := says_of_withDefault (hparts _ (by decide)) (fun _ _ => eq_text_of_text) hvalue
    field := says_of_optional (hparts _ (by decide)) (fun _ _ => spells_of_word) hfield }

/-- A document says one condition at most. -/
theorem Mirrors.unique {v : Json} {c d : Condition} (hc : Mirrors v c) (hd : Mirrors v d) :
    c = d := by
  have hfields : ∀ f g : Field, f.name = g.name → f = g := by
    intro f g h
    cases f <;> cases g <;> simp_all [Field.name]
  obtain ⟨kind, field, op, value⟩ := c
  obtain ⟨kind', field', op', value'⟩ := d
  obtain ⟨⟨part, hpart, hkind⟩, ⟨opPart, hopPart, hop⟩, hvalue, hfield⟩ := hc
  obtain ⟨⟨part', hpart', hkind'⟩, ⟨opPart', hopPart', hop'⟩, hvalue', hfield'⟩ := hd
  obtain rfl := List.singleton_inj.1 (hpart.symm.trans hpart')
  obtain rfl := List.singleton_inj.1 (hopPart.symm.trans hopPart')
  obtain rfl := Spells.rightUnique (fun _ _ => Kind.name_injective) hkind hkind'
  obtain rfl := Spells.rightUnique (fun _ _ => Op.name_injective) hop hop'
  obtain rfl := Says.rightUnique (fun _ _ _ h h' => Option.some.inj (str.inj (h.symm.trans h')))
    hvalue hvalue'
  obtain rfl := Says.rightUnique (NullOr.rightUnique (Spells.rightUnique hfields)) hfield hfield'
  rfl

end Condition

/-! ### Trees -/

namespace Tree

/-- The names of the parts of a node, in the order of an array. -/
def partNames : List String := ["operator", "children", "condition"]

/-- Whether a node names a connective; a node that names none has the conjunction. -/
def HasConnective : Json → Connective → Prop :=
  Says partNames "operator" (Spells Connective.name) .and

/-- Whether a node has an array of some items for its children; a node without one has none. -/
def HasItems : Json → List Json → Prop :=
  Says partNames "children" (NullOr (fun part items => part = .arr items) []) []

/-- Whether a tree is what a document says. -/
inductive Mirrors : Json → Tree → Prop where
  /-- A node with a condition is a leaf, whatever its operator. -/
  | leaf {v part : Json} {c : Condition} (hchildren : v.Lacks partNames "children")
      (hcondition : v.parts partNames "condition" = [part]) (hpart : part ≠ .null)
      (hmirrors : c.Mirrors part) : Mirrors v (.leaf c)
  /-- Any other node is a branch with a child for each item of its array. -/
  | branch {v : Json} {o : Connective} {items : List Json} {cs : List Tree}
      (hcondition : v.Lacks partNames "condition") (hoperator : HasConnective v o)
      (hchildren : HasItems v items) (hmirrors : List.Forall₂ Mirrors items cs) :
      Mirrors v (.branch o cs)

/-- **What a node is read as**: a leaf of its condition, or a branch whose children are read from
the items of its array. -/
theorem reader_cases {room : Nat} {v : Json} {t : Tree} (h : reader room v = .ok t) :
    (∃ part c, v.Lacks partNames "children" ∧ v.parts partNames "condition" = [part] ∧
      part ≠ .null ∧ Condition.Mirrors part c ∧ t = leaf c) ∨
    ∃ o items cs inside, v.Lacks partNames "condition" ∧ HasConnective v o ∧ HasItems v items ∧
      List.Forall₂ (fun v t => reader inside v = .ok t) items cs ∧ t = branch o cs := by
  rw [reader_eq_node, node, Except.bind_eq_ok_iff] at h
  obtain ⟨⟨inside, given⟩, hgiven, h⟩ := h
  have hparts : ∀ name ∈ partNames, v.parts partNames name = (given.lookup name).toList :=
    fun name => parts_eq_toList_lookup (by decide) hgiven
  simp only [Except.bind_eq_ok_iff] at h
  obtain ⟨o, hoperator, children, hchildren, condition, hcondition, hofParts⟩ := h
  have hoperator : HasConnective v o :=
    says_of_withDefault (hparts _ (by decide)) (fun _ _ => spells_of_word) hoperator
  have hcondition := exists_part_of_optional (hparts _ (by decide)) hcondition
  have hchildren := exists_part_of_optional (hparts _ (by decide)) hchildren
  obtain ⟨part, c, hpart, hnull, hread, rfl⟩ | ⟨hlacks, rfl⟩ := hcondition
  · -- A condition leaves no room for children.
    obtain ⟨-, cs, -, -, -, rfl⟩ | ⟨hnone, rfl⟩ := hchildren
    · cases hofParts
    · exact .inl ⟨part, c, hnone, hpart, hnull, Condition.mirrors_of_reader hread,
        (Except.ok.inj hofParts).symm⟩
  · -- Without a condition the children are an array, are missing or are `null`.
    refine .inr ?_
    obtain ⟨part, cs, hpart, hnull, hread, rfl⟩ | ⟨hnone | hnull, rfl⟩ := hchildren
    · obtain ⟨innermost, items, hpart', hitems⟩ := exists_items_of_list hread
      exact ⟨o, items, cs, innermost, hlacks, hoperator, .inl ⟨part, hpart, .inl ⟨hnull, hpart'⟩⟩,
        hitems, (Except.ok.inj hofParts).symm⟩
    · exact ⟨o, [], [], inside, hlacks, hoperator, .inr ⟨hnone, rfl⟩, .nil,
        (Except.ok.inj hofParts).symm⟩
    · exact ⟨o, [], [], inside, hlacks, hoperator, .inl ⟨.null, hnull, .inr ⟨rfl, rfl⟩⟩, .nil,
        (Except.ok.inj hofParts).symm⟩

/-- **A tree that is read mirrors its document.** -/
theorem mirrors_of_reader {t : Tree} : ∀ {room : Nat} {v : Json}, reader room v = .ok t →
    Mirrors v t := by
  induction t using Tree.induction with
  | leaf c =>
    intro room v h
    obtain ⟨part, d, hchildren, hcondition, hpart, hmirrors, heq⟩ |
      ⟨o, items, cs, inside, -, -, -, -, heq⟩ := reader_cases h
    · obtain rfl := Tree.leaf.inj heq
      exact .leaf hchildren hcondition hpart hmirrors
    · cases heq
  | branch o cs ih =>
    intro room v h
    obtain ⟨part, d, -, -, -, -, heq⟩ |
      ⟨o', items, ds, inside, hcondition, hoperator, hchildren, hread, heq⟩ := reader_cases h
    · cases heq
    · obtain ⟨rfl, rfl⟩ := Tree.branch.inj heq
      refine .branch hcondition hoperator hchildren ?_
      -- Only of these children is it known that they mirror what they are read from.
      rw [List.forall₂_iff_zip] at hread ⊢
      exact ⟨hread.1, fun hmem => ih _ (List.of_mem_zip hmem).2 (hread.2 hmem)⟩

/-! ### One tree at most -/

/-- What is related to the same items one by one is the same, if each item is related to one thing
at most. -/
theorem eq_of_forall₂ {α β : Type} {R : α → β → Prop} {xs : List α} {ys zs : List β}
    (hys : List.Forall₂ R xs ys) (hzs : List.Forall₂ R xs zs)
    (h : ∀ y ∈ ys, ∀ x z, R x y → R x z → y = z) : ys = zs := by
  induction hys generalizing zs with
  | nil =>
    obtain ⟨⟩ := hzs
    rfl
  | cons hy _ ih =>
    obtain - | ⟨hz, hzs⟩ := hzs
    obtain ⟨hfirst, hrest⟩ := List.forall_mem_cons.1 h
    rw [hfirst _ _ hy hz, ih hzs hrest]

theorem rightUnique_hasConnective : Relator.RightUnique HasConnective := by
  refine Says.rightUnique (Spells.rightUnique fun o p h => ?_)
  cases o <;> cases p <;> simp_all [Connective.name]

theorem rightUnique_hasItems : Relator.RightUnique HasItems :=
  Says.rightUnique (NullOr.rightUnique fun _ _ _ h h' => arr.inj (h.symm.trans h'))

/-- A part under a name that a record lacks is `null`, so it is not the only one that is not. -/
theorem eq_null_of_lacks {v part : Json} {name : String} (h : v.Lacks partNames name)
    (hpart : v.parts partNames name = [part]) : part = .null :=
  h.eq_null_of_mem (hpart ▸ List.mem_singleton_self part)

/-- **A document says one tree at most.** -/
theorem Mirrors.unique {t : Tree} : ∀ {v : Json} {u : Tree}, Mirrors v t → Mirrors v u → t = u := by
  induction t using Tree.induction with
  | leaf c =>
    intro v u ht hu
    obtain ⟨-, hcondition, hpart, hc⟩ := ht
    cases hu with
    | leaf _ hcondition' _ hd =>
      obtain rfl := List.singleton_inj.1 (hcondition.symm.trans hcondition')
      rw [hc.unique hd]
    | branch hlacks => exact absurd (eq_null_of_lacks hlacks hcondition) hpart
  | branch o cs ih =>
    intro v u ht hu
    obtain - | ⟨hlacks, ho, hitems, hcs⟩ := ht
    cases hu with
    | leaf _ hcondition hpart => exact absurd (eq_null_of_lacks hlacks hcondition) hpart
    | branch _ hp hitems' hds =>
      obtain rfl := rightUnique_hasConnective ho hp
      obtain rfl := rightUnique_hasItems hitems hitems'
      rw [eq_of_forall₂ hcs hds fun t ht v u => ih t ht]

/-! ### Leaf and branch at once -/

/-- The nodes of a document: itself, and the items of the arrays of children of its nodes. -/
inductive NodeIn (v : Json) : Json → Prop where
  | root : NodeIn v v
  | child {node item : Json} {items : List Json} (hnode : NodeIn v node)
      (hitems : .arr items ∈ node.parts partNames "children") (hitem : item ∈ items) :
      NodeIn v item

/-- Whether a node has a condition and children, neither of which is `null`. -/
def IsBoth (node : Json) : Prop :=
  (∃ part ∈ node.parts partNames "condition", part ≠ .null) ∧
    ∃ part ∈ node.parts partNames "children", part ≠ .null

/-- What mirrors a document has a part for each of its nodes. -/
theorem Mirrors.exists_of_nodeIn {v node : Json} {t : Tree} (h : Mirrors v t)
    (hnode : NodeIn v node) : ∃ u, Mirrors node u := by
  induction hnode with
  | root => exact ⟨t, h⟩
  | child _ hitems hitem ih =>
    obtain ⟨u, hu⟩ := ih
    cases hu with
    -- A leaf has no array under its children, so no node lies below it.
    | leaf hchildren => exact nomatch hchildren.eq_null_of_mem hitems
    | branch _ _ hchildren hmirrors =>
      -- The array is the one that the children of the branch come from.
      obtain ⟨part, hpart, ⟨-, rfl⟩ | ⟨rfl, -⟩⟩ | ⟨hnone, -⟩ := hchildren
      · rw [hpart, List.mem_singleton] at hitems
        obtain rfl := arr.inj hitems
        obtain ⟨u, -, hu⟩ := exists_of_mem_left hmirrors hitem
        exact ⟨u, hu⟩
      · rw [hpart, List.mem_singleton] at hitems
        cases hitems
      · rw [hnone] at hitems
        cases hitems

/-- **What mirrors a document has no node that is both leaf and branch.** -/
theorem Mirrors.not_isBoth {v : Json} {t : Tree} (h : Mirrors v t) : ¬ IsBoth v := by
  rintro ⟨⟨condition, hcondition, hnotNull⟩, children, hchildren, hnotNull'⟩
  cases h with
  | leaf hlacks => exact hnotNull' (hlacks.eq_null_of_mem hchildren)
  | branch hlacks => exact hnotNull (hlacks.eq_null_of_mem hcondition)

/-! ### Texts -/

/-- **A tree has the shape of its document**, and no document with a node that is both leaf and
branch is that of a tree. Where such a node lies anywhere below arrays of children, the text is
refused as malformed; and a tree that is read from a text mirrors the document, as no other tree
does. -/
theorem ofText_mirrors {s : String} {v : Json} (hv : parse? s = some v) :
    (∀ node, NodeIn v node → IsBoth node → ∃ cause, ofText s = .error (.malformed .tree cause)) ∧
    ∀ t, ofText s = .ok t → Mirrors v t ∧ ∀ u, Mirrors v u → u = t := by
  have hofText : ofText s = (reader nestingLimit v).mapError (.malformed .tree) := by
    rw [ofText, readDocument, Reader.run, hv]
  rw [hofText]
  cases hread : reader nestingLimit v with
  | error cause =>
    refine ⟨fun node _ _ => ⟨cause, rfl⟩, fun t h => ?_⟩
    cases h
  | ok t =>
    have hmirrors : Mirrors v t := mirrors_of_reader hread
    refine ⟨fun node hnode hboth => ?_, fun u h => ?_⟩
    · -- Had the text been read, its tree would mirror a node that nothing mirrors.
      obtain ⟨u, hu⟩ := hmirrors.exists_of_nodeIn hnode
      exact absurd hboth hu.not_isBoth
    · obtain rfl := Except.ok.inj h
      exact ⟨hmirrors, fun u hu => hu.unique hmirrors⟩

/-- A document of a disjunction over a leaf that names a connective of its own and leaves out its
field, a branch with `null` for children, and a leaf written as arrays. -/
def mixedJson : Json :=
  .object [("children", .arr [
      .object [("operator", .text "OR"), ("children", .null),
        ("condition", .object [("op", .text "in_group"), ("type", .text "User")])],
      .object [("children", .null), ("note", .text "for later")],
      .arr [.text "AND", .null, .arr [.text "Device", .text "group", .text "managed"]]]),
    ("operator", .text "OR")]

/-- A node with a condition and an empty array of children. -/
def tornNode : Json :=
  .object [("condition", .object [("type", .text "Device"), ("op", .text "managed")]),
    ("children", .arr [])]

/-- A document with that node two levels down. -/
def tornJson : Json :=
  .object [("children", .arr [.object [("children", .arr [tornNode])]])]

theorem ofText_mirrors_mixedJson :
    (ofText mixedJson.render = .ok (.branch .or [
        .leaf (.ofOp .inGroup ""), .empty, .leaf ⟨.device, .group, .managed, ""⟩]) ∧
      Mirrors mixedJson (.branch .or [
        .leaf (.ofOp .inGroup ""), .empty, .leaf ⟨.device, .group, .managed, ""⟩])) ∧
    IsBoth tornNode ∧ ∃ cause, ofText tornJson.render = .error (.malformed .tree cause) := by
  obtain ⟨-, hmixed⟩ := ofText_mirrors (parse?_render mixedJson)
  obtain ⟨htorn, -⟩ := ofText_mirrors (parse?_render tornJson)
  have hread : ofText mixedJson.render = .ok (.branch .or [
      .leaf (.ofOp .inGroup ""), .empty, .leaf ⟨.device, .group, .managed, ""⟩]) := by
    rw [ofText, readDocument, Reader.run, parse?_render]
    rfl
  have hboth : IsBoth tornNode :=
    ⟨⟨_, List.mem_singleton_self _, nofun⟩, _, List.mem_singleton_self _, nofun⟩
  have hnode : NodeIn tornJson tornNode :=
    .child (.child .root (List.mem_singleton_self _) (List.mem_singleton_self _))
      (List.mem_singleton_self _) (List.mem_singleton_self _)
  exact ⟨⟨hread, (hmixed _ hread).1⟩, hboth, htorn tornNode hnode hboth⟩

end Tree

end ZeroTrust
