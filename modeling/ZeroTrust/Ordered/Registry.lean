/-
  `Ordered.Registry` — values filed under names, in ascending order of the names.

  A registry files at most one value under a name. It is the list of its entries,
  ascending by name, so that two registries that file the same are equal.
-/
namespace ZeroTrust

variable {α : Type}

/-- Entries that ascend by name. -/
abbrev Ascending (entries : List (String × α)) : Prop :=
  entries.Pairwise fun a b => a.1 < b.1

/-- A value filed among ascending entries, in the place of the one under its name, if any. -/
def insertEntry (name : String) (a : α) : List (String × α) → List (String × α)
  | [] => [(name, a)]
  | e :: es =>
    if name < e.1 then (name, a) :: e :: es
    else if name = e.1 then (name, a) :: es
    else e :: insertEntry name a es

/-- The entries under other names. -/
def eraseEntry (name : String) (es : List (String × α)) : List (String × α) :=
  es.filter fun e => e.1 != name

theorem fst_of_mem_insertEntry {e : String × α} {name : String} {a : α} {es : List (String × α)}
    (h : e ∈ insertEntry name a es) : e.1 = name ∨ e ∈ es := by
  induction es with
  | nil => simp_all [insertEntry]
  | cons d ds ih =>
    simp only [insertEntry] at h
    split at h
    · rcases List.mem_cons.1 h with rfl | h
      · exact .inl rfl
      · exact .inr h
    · split at h
      · rcases List.mem_cons.1 h with rfl | h
        · exact .inl rfl
        · exact .inr (List.mem_cons_of_mem _ h)
      · rcases List.mem_cons.1 h with rfl | h
        · exact .inr List.mem_cons_self
        · exact (ih h).imp id (List.mem_cons_of_mem _)

/-- Filing keeps the order. -/
theorem ascending_insertEntry {name : String} {a : α} {es : List (String × α)}
    (h : Ascending es) : Ascending (insertEntry name a es) := by
  induction es with
  | nil => simp [insertEntry, Ascending]
  | cons d ds ih =>
    have ⟨hd, hds⟩ := List.pairwise_cons.1 h
    simp only [insertEntry]
    split
    case isTrue hlt =>
      refine List.pairwise_cons.2 ⟨fun e he => ?_, h⟩
      rcases List.mem_cons.1 he with rfl | he
      · exact hlt
      · exact String.lt_trans hlt (hd e he)
    case isFalse hnlt =>
      split
      case isTrue heq => exact List.pairwise_cons.2 ⟨fun e he => heq ▸ hd e he, hds⟩
      case isFalse hne =>
        refine List.pairwise_cons.2 ⟨fun e he => ?_, ih hds⟩
        rcases fst_of_mem_insertEntry he with heq | he
        · rw [heq]
          exact String.not_le.1 fun hle => hne (String.le_antisymm hle (String.not_lt.1 hnlt))
        · exact hd e he

/-- Values filed under names. -/
structure Registry (α : Type) where
  /-- The entries, ascending by name. -/
  entries : List (String × α)
  ascending : Ascending entries

namespace Registry

/-- The registry without entries. -/
def empty : Registry α := ⟨[], List.Pairwise.nil⟩

/-- The value under a name. -/
def find? (r : Registry α) (name : String) : Option α :=
  r.entries.lookup name

/-- Whether something is filed under a name. -/
def contains (r : Registry α) (name : String) : Bool :=
  (r.find? name).isSome

/-- The registry with a value filed under a name, in the place of the one there, if any. -/
def insert (r : Registry α) (name : String) (a : α) : Registry α :=
  ⟨insertEntry name a r.entries, ascending_insertEntry r.ascending⟩

/-- The registry without the entry under a name. -/
def erase (r : Registry α) (name : String) : Registry α :=
  ⟨eraseEntry name r.entries, r.ascending.sublist List.filter_sublist⟩

/-- The values, in order of their names. -/
def values (r : Registry α) : List α :=
  r.entries.map Prod.snd

/-- The number of entries. -/
def size (r : Registry α) : Nat :=
  r.entries.length

instance : Inhabited (Registry α) := ⟨empty⟩

/-! ### Looking up -/

@[ext] theorem ext {r s : Registry α} (h : r.entries = s.entries) : r = s := by
  cases r; cases s; simp_all

@[simp] theorem find?_empty (name : String) : (empty : Registry α).find? name = none := rfl

theorem lookup_cons_eq_ite (key name : String) (a : α) (es : List (String × α)) :
    List.lookup key ((name, a) :: es) = if key = name then some a else es.lookup key := by
  by_cases h : key = name
  · simp [h]
  · have : (key == name) = false := by simpa using h
    simp [List.lookup_cons, this, h]

/-- Looking up finds exactly what is filed. -/
theorem lookup_eq_some_iff_mem {es : List (String × α)} (h : Ascending es) (name : String) (a : α) :
    es.lookup name = some a ↔ (name, a) ∈ es := by
  induction es with
  | nil => simp
  | cons d ds ih =>
    obtain ⟨dname, d⟩ := d
    have ⟨hd, hds⟩ := List.pairwise_cons.1 h
    rw [lookup_cons_eq_ite, List.mem_cons, Prod.mk.injEq, ← ih hds]
    by_cases hname : name = dname
    · -- Nothing else is filed under the first name.
      have hnot : ds.lookup name ≠ some a := by
        rw [ne_eq, ih hds]
        intro hmem
        exact String.lt_irrefl name (hname ▸ hd _ hmem)
      simp [hname, hname ▸ hnot, eq_comm]
    · simp [hname]

theorem find?_eq_some_iff (r : Registry α) (name : String) (a : α) :
    r.find? name = some a ↔ (name, a) ∈ r.entries :=
  lookup_eq_some_iff_mem r.ascending name a

theorem lookup_insertEntry (name key : String) (a : α) (es : List (String × α)) :
    (insertEntry name a es).lookup key = if key = name then some a else es.lookup key := by
  induction es with
  | nil => simp [insertEntry, lookup_cons_eq_ite]
  | cons d ds ih =>
    obtain ⟨dname, d⟩ := d
    simp only [insertEntry]
    split
    · rw [lookup_cons_eq_ite]
    · split
      · simp_all [lookup_cons_eq_ite]
      · rw [lookup_cons_eq_ite, ih, lookup_cons_eq_ite]
        grind

/-- What is found after filing: the new value under its name, the old ones elsewhere. -/
theorem find?_insert (r : Registry α) (name key : String) (a : α) :
    (r.insert name a).find? key = if key = name then some a else r.find? key :=
  lookup_insertEntry name key a r.entries

theorem insertEntry_eq_self {name : String} {a : α} {es : List (String × α)} (hes : Ascending es)
    (h : es.lookup name = some a) : insertEntry name a es = es := by
  induction es with
  | nil => cases h
  | cons e es ih =>
    obtain ⟨ename, b⟩ := e
    have ⟨hlt, hrest⟩ := List.pairwise_cons.1 hes
    rw [lookup_cons_eq_ite] at h
    simp only [insertEntry]
    by_cases hname : name = ename
    · rw [if_pos hname] at h
      rw [hname, if_neg (String.lt_irrefl ename), if_pos rfl, Option.some.inj h]
    · -- What is filed further on does not come before the first name.
      rw [if_neg hname] at h
      have hafter : ename < name := hlt _ ((lookup_eq_some_iff_mem hrest name a).1 h)
      rw [if_neg (String.lt_asymm hafter), if_neg hname, ih hrest h]

/-- Filing a value where it is filed already changes nothing. -/
theorem insert_eq_self {r : Registry α} {name : String} {a : α} (h : r.find? name = some a) :
    r.insert name a = r :=
  ext (insertEntry_eq_self r.ascending h)

theorem lookup_eraseEntry (name key : String) (es : List (String × α)) :
    (eraseEntry name es).lookup key = if key = name then none else es.lookup key := by
  induction es with
  | nil => simp [eraseEntry]
  | cons d ds ih =>
    obtain ⟨dname, d⟩ := d
    simp only [eraseEntry, List.filter_cons] at ih ⊢
    by_cases hd : dname = name
    · simp only [hd, bne_self_eq_false, Bool.false_eq_true, if_false, ih, lookup_cons_eq_ite]
      split <;> rfl
    · simp only [bne_iff_ne, ne_eq, hd, not_false_iff, if_true, ih, lookup_cons_eq_ite]
      split
      · simp_all
      · rfl

/-- What is found after erasing: nothing under the name, the old values elsewhere. -/
theorem find?_erase (r : Registry α) (name key : String) :
    (r.erase name).find? key = if key = name then none else r.find? key :=
  lookup_eraseEntry name key r.entries

end Registry

end ZeroTrust
