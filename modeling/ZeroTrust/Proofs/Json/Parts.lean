/-
  `Proofs.Json.Parts` — what a document says, apart from how it is read.

  A record names its parts: an object by the names of its members, an array by the place
  of each item among the names of the record. `Json.parts` lists what stands under a name,
  in a document of any form and with any repetitions. A record that is read has at most
  one part under each of its names (`Reader.parts_eq_toList_lookup`), so a field is read
  from the only part that there is, or has the value of a missing one.

  The lemmas take readers apart, like those of `Proofs.Json.Gives`, but keep hold of the
  document: they say which part of it a value comes from.
-/
import Mathlib.Data.List.Forall2
import ZeroTrust.Json.Reader
import ZeroTrust.Ordered.Registry
import ZeroTrust.Proofs.Except

namespace ZeroTrust.Json

/-! ### Parts of a record -/

/-- The named parts of a record: the members of an object, and the items of an array under the names
in whose places they stand. -/
def entries (names : List String) : Json → List (Option String × Json)
  | obj members => members
  | arr items => (names.zip items).map fun (name, part) => (some name, part)
  | _ => []

/-- What stands under a name. -/
def under (name : String) (entries : List (Option String × Json)) : List Json :=
  (entries.filter fun e => e.1 == some name).map Prod.snd

/-- What a record holds under a name. -/
def parts (names : List String) (name : String) (v : Json) : List Json :=
  under name (v.entries names)

/-- Whether a record has nothing under a name, or `null`. -/
def Lacks (names : List String) (name : String) (v : Json) : Prop :=
  v.parts names name = [] ∨ v.parts names name = [null]

theorem Lacks.eq_null_of_mem {names : List String} {name : String} {v part : Json}
    (h : v.Lacks names name) (hpart : part ∈ v.parts names name) : part = null := by
  obtain hnone | hnull := h
  · rw [hnone] at hpart
    cases hpart
  · rw [hnull] at hpart
    exact List.mem_singleton.1 hpart

section Says

variable {α : Type}

/-- Whether a record says a value under a name: its only part there means the value, or there is
none, and the value is the default. -/
def Says (names : List String) (name : String) (means : Json → α → Prop) (default : α) (v : Json)
    (a : α) : Prop :=
  (∃ part, v.parts names name = [part] ∧ means part a) ∨ (v.parts names name = [] ∧ a = default)

/-- Whether a part means a value, where `null` means the default. -/
def NullOr (means : Json → α → Prop) (default : α) (part : Json) (a : α) : Prop :=
  (part ≠ null ∧ means part a) ∨ (part = null ∧ a = default)

/-- Whether a part is a word: alone, or as the name of the only member of an object, which is
`null`. -/
def Spells (name : α → String) (part : Json) (a : α) : Prop :=
  part = text (name a) ∨ part = obj [(some (name a), null)]

/-! Where a part means one value at most, a record says one at most. -/

variable {names : List String} {name : String} {means : Json → α → Prop} {default : α}

theorem Says.rightUnique (h : Relator.RightUnique means) :
    Relator.RightUnique (Says names name means default) := by
  intro v a b ha hb
  obtain ⟨part, hpart, ha⟩ | ⟨hnone, rfl⟩ := ha <;>
    obtain ⟨part', hpart', hb⟩ | ⟨hnone', rfl⟩ := hb
  · obtain rfl := List.singleton_inj.1 (hpart.symm.trans hpart')
    exact h ha hb
  · cases hpart.symm.trans hnone'
  · cases hpart'.symm.trans hnone
  · rfl

theorem NullOr.rightUnique (h : Relator.RightUnique means) :
    Relator.RightUnique (NullOr means default) := by
  intro part a b ha hb
  obtain ⟨hpart, ha⟩ | ⟨hnull, rfl⟩ := ha <;> obtain ⟨hpart', hb⟩ | ⟨hnull', rfl⟩ := hb
  · exact h ha hb
  · exact absurd hnull' hpart
  · exact absurd hnull hpart'
  · rfl

theorem Spells.rightUnique {name : α → String} (h : ∀ a b, name a = name b → a = b) :
    Relator.RightUnique (Spells name) := by
  intro part a b ha hb
  refine h a b ?_
  obtain ha | ha := ha <;> obtain hb | hb := hb
  · exact Option.some.inj (Json.str.inj (ha.symm.trans hb))
  · exact nomatch ha.symm.trans hb
  · exact nomatch ha.symm.trans hb
  · simpa using ha.symm.trans hb

end Says

theorem under_cons (name : String) (key : Option String) (part : Json)
    (es : List (Option String × Json)) :
    under name ((key, part) :: es) =
      if key = some name then part :: under name es else under name es := by
  rw [under, List.filter_cons]
  by_cases h : key = some name <;> simp [h, under]

namespace Reader

variable {α : Type} {names : List String} {name : String} {room : Nat}

/-! ### Fields -/

/-- Under a name that stands once is what a look-up finds. -/
theorem under_map_some {given : Fields} (h : (given.map Prod.fst).Nodup) :
    under name (given.map fun (name, part) => (some name, part)) = (given.lookup name).toList := by
  induction given with
  | nil => rfl
  | cons field given ih =>
    obtain ⟨key, part⟩ := field
    obtain ⟨hkey, hgiven⟩ := List.nodup_cons.1 h
    rw [List.map_cons, under_cons, ih hgiven, Registry.lookup_cons_eq_ite]
    by_cases hname : key = name
    · -- Nothing else stands under the first name.
      have hnone : given.lookup name = none := by
        rw [List.lookup_eq_none_iff]
        intro field hfield
        have hmem : field.1 ∈ given.map Prod.fst := List.mem_map_of_mem hfield
        rw [bne_iff_ne, ← hname]
        exact fun heq => hkey (heq ▸ hmem)
      rw [if_pos (congrArg some hname), if_pos hname.symm, hnone]
      rfl
    · rw [if_neg fun h => hname (Option.some.inj h), if_neg (Ne.symm hname)]

/-- The members that are kept are those with names of the record, each of which stands once. -/
theorem knownMembers_spec {members : List (Option String × Json)} {given : Fields}
    (h : knownMembers names members = .ok given) :
    (given.map Prod.fst).Nodup ∧ ∀ name ∈ names,
      under name members = under name (given.map fun (name, part) => (some name, part)) := by
  induction members generalizing given with
  | nil =>
    obtain rfl := Except.ok.inj h
    exact ⟨List.nodup_nil, fun _ _ => rfl⟩
  | cons m members ih =>
    obtain ⟨key, part⟩ := m
    cases key with
    | none => cases h
    | some key =>
      rw [knownMembers, Except.bind_eq_ok_iff] at h
      obtain ⟨rest, hrest, h⟩ := h
      obtain ⟨hnodup, hunder⟩ := ih hrest
      split at h
      case isTrue hunknown =>
        -- A member of another name is passed over.
        obtain rfl := Except.ok.inj h
        refine ⟨hnodup, fun name hname => ?_⟩
        have hne : some key ≠ some name := by
          rintro ⟨⟩
          simp [hname] at hunknown
        rw [under_cons, if_neg hne, hunder name hname]
      case isFalse hknown =>
        -- A member of the record is kept, and only if none of its name was kept from what follows.
        simp only [Except.guarded_eq_ok_iff, Except.pure_eq_ok_iff] at h
        obtain ⟨hfresh, rfl⟩ := h
        refine ⟨List.nodup_cons.2 ⟨fun hmem => hfresh ?_, hnodup⟩, fun name hname => ?_⟩
        · obtain ⟨field, hfield, hkey⟩ := List.mem_map.1 hmem
          exact List.any_eq_true.2 ⟨field, hfield, beq_iff_eq.2 hkey⟩
        · rw [List.map_cons, under_cons, under_cons, hunder name hname]

theorem map_fst_zip_sublist (names : List String) (items : List Json) :
    ((names.zip items).map Prod.fst).Sublist names := by
  induction names generalizing items with
  | nil => exact List.Sublist.refl _
  | cons name names ih =>
    cases items with
    | nil => exact List.nil_sublist _
    | cons item items => exact (ih items).cons_cons name

/-- **A record that is read has at most one part under each of its names**, and the fields that are
read are these parts. -/
theorem parts_eq_toList_lookup (hnames : names.Nodup) {v : Json} {inside : Nat} {given : Fields}
    (h : fields names room v = .ok (inside, given)) (hname : name ∈ names) :
    v.parts names name = (given.lookup name).toList := by
  unfold fields at h
  split at h
  case h_1 members =>
    obtain ⟨known, hknown, h⟩ := (Except.bind_eq_ok_iff _ _ _).1 h
    obtain ⟨-, rfl⟩ := Prod.mk.inj ((Except.pure_eq_ok_iff _ _).1 h)
    obtain ⟨hnodup, hunder⟩ := knownMembers_spec hknown
    exact (hunder name hname).trans (under_map_some hnodup)
  case h_2 items =>
    split at h
    case isTrue =>
      obtain ⟨-, rfl⟩ := Prod.mk.inj (Except.ok.inj h)
      exact under_map_some (hnames.sublist (map_fst_zip_sublist names items))
    case isFalse => cases h
  case h_3 => cases h

section Fields

variable {read : Reader α} {given : Fields} {v : Json} {means : Json → α → Prop} {default a : α}

theorem exists_part_of_required (hparts : v.parts names name = (given.lookup name).toList)
    (h : given.required name read room = .ok a) :
    ∃ part, v.parts names name = [part] ∧ read room part = .ok a := by
  rw [Fields.required] at h
  rw [hparts]
  cases hlookup : given.lookup name with
  | none => rw [hlookup] at h; cases h
  | some part => rw [hlookup] at h; exact ⟨part, rfl, h⟩

/-- A field that may be left out is what the record says. -/
theorem says_of_withDefault (hparts : v.parts names name = (given.lookup name).toList)
    (hread : ∀ part a, read room part = .ok a → means part a)
    (h : given.withDefault name default read room = .ok a) :
    v.Says names name means default a := by
  rw [Fields.withDefault] at h
  rw [Says, hparts]
  cases hlookup : given.lookup name with
  | none => rw [hlookup] at h; exact .inr ⟨rfl, (Except.ok.inj h).symm⟩
  | some part => rw [hlookup] at h; exact .inl ⟨part, rfl, hread part a h⟩

/-- A field that may be left out, or be `null`, is read from the only part there is, or has no
value. -/
theorem exists_part_of_optional (hparts : v.parts names name = (given.lookup name).toList)
    {value : Option α} (h : given.optional name read room = .ok value) :
    (∃ part a, v.parts names name = [part] ∧ part ≠ null ∧ read room part = .ok a ∧
        value = some a) ∨
      (v.Lacks names name ∧ value = none) := by
  have hsays : v.Says names name (fun part value => nullable read room part = .ok value) none
      value := says_of_withDefault hparts (fun _ _ => id) h
  obtain ⟨part, hpart, hread⟩ | ⟨hnone, rfl⟩ := hsays
  · unfold nullable at hread
    split at hread
    case h_1 => exact .inr ⟨.inr hpart, (Except.ok.inj hread).symm⟩
    case h_2 hnull =>
      obtain ⟨a, ha, rfl⟩ := (Except.map_eq_ok_iff _ _ _).1 hread
      exact .inl ⟨part, a, hpart, hnull, ha, rfl⟩
  · exact .inr ⟨.inl hnone, rfl⟩

/-- A field that may be left out, or be `null`, and then has its default, is what the record
says. -/
theorem says_of_optional (hparts : v.parts names name = (given.lookup name).toList)
    (hread : ∀ part a, read room part = .ok a → means part a) {value : Option α}
    (h : given.optional name read room = .ok value) :
    v.Says names name (NullOr means default) default (value.getD default) := by
  -- The part has a value, is missing, or is `null`.
  obtain ⟨part, a, hpart, hnull, ha, rfl⟩ | ⟨hnone | hnull, rfl⟩ :=
    exists_part_of_optional hparts h
  · exact .inl ⟨part, hpart, .inl ⟨hnull, hread part a ha⟩⟩
  · exact .inr ⟨hnone, rfl⟩
  · exact .inl ⟨null, hnull, .inr ⟨rfl, rfl⟩⟩

end Fields

/-! ### Values -/

theorem eq_text_of_text {v : Json} {s : String} (h : text room v = .ok s) : v = .text s := by
  unfold text at h
  split at h
  · obtain rfl := Except.ok.inj h
    rfl
  · cases h

theorem spells_of_word {values : List α} {wordOf : α → String} {v : Json} {a : α}
    (h : word values wordOf room v = .ok a) : Spells wordOf v a := by
  have hfind : ∀ {s : String}, word.find values wordOf s = .ok a → wordOf a = s := by
    intro s hs
    rw [word.find] at hs
    split at hs
    case h_1 b hb =>
      obtain rfl := Except.ok.inj hs
      have hword := List.find?_some hb
      exact beq_iff_eq.1 hword
    case h_2 => cases hs
  unfold word at h
  split at h
  · rw [Spells, hfind h]
    exact .inl rfl
  · rw [Spells, hfind h]
    exact .inr rfl
  · cases h

theorem forall₂_of_mapM {read : Reader α} {vs : List Json} {items : List α}
    (h : vs.mapM (read room) = .ok items) :
    List.Forall₂ (fun v a => read room v = .ok a) vs items := by
  induction vs generalizing items with
  | nil =>
    obtain rfl := Except.ok.inj h
    exact .nil
  | cons v vs ih =>
    rw [List.mapM_cons, Except.bind_eq_ok_iff] at h
    obtain ⟨a, ha, h⟩ := h
    obtain ⟨as, has, h⟩ := (Except.bind_eq_ok_iff _ _ _).1 h
    obtain rfl := (Except.pure_eq_ok_iff _ _).1 h
    exact .cons ha (ih has)

/-- A list is read from an array, item by item. -/
theorem exists_items_of_list {read : Reader α} {v : Json} {items : List α}
    (h : list read room v = .ok items) :
    ∃ inside vs, v = arr vs ∧ List.Forall₂ (fun v a => read inside v = .ok a) vs items := by
  unfold list at h
  split at h
  case h_1 inside vs => exact ⟨inside, vs, rfl, forall₂_of_mapM h⟩
  case h_2 => cases h

end Reader

end ZeroTrust.Json
