/-
  `Ordered.NameSet` — a set of names, in ascending order.

  Groups of a user and gateways of a policy are sets: neither the order in which
  they are given nor a repetition means anything. A set is the list of its names,
  ascending and without repetition, so that equal sets are equal values.
-/
namespace ZeroTrust

/-- A name put in its place among ascending names, unless it is there already. -/
def insertName (name : String) : List String → List String
  | [] => [name]
  | n :: ns =>
    if name < n then name :: n :: ns
    else if name = n then n :: ns
    else n :: insertName name ns

@[simp] theorem mem_insertName {a name : String} {ns : List String} :
    a ∈ insertName name ns ↔ a = name ∨ a ∈ ns := by
  induction ns with
  | nil => simp [insertName]
  | cons n ns ih =>
    simp only [insertName]
    split
    · simp
    · split
      · simp_all
      · simp only [List.mem_cons, ih]
        grind

/-- Inserting keeps the order. -/
theorem pairwise_insertName {name : String} {ns : List String} (h : ns.Pairwise (· < ·)) :
    (insertName name ns).Pairwise (· < ·) := by
  induction ns with
  | nil => simp [insertName]
  | cons n ns ih =>
    rw [List.pairwise_cons] at h
    simp only [insertName]
    split
    case isTrue hlt =>
      refine List.pairwise_cons.2 ⟨fun a ha => ?_, List.pairwise_cons.2 h⟩
      rcases List.mem_cons.1 ha with rfl | ha
      · exact hlt
      · exact String.lt_trans hlt (h.1 a ha)
    case isFalse hnlt =>
      split
      case isTrue => exact List.pairwise_cons.2 h
      case isFalse hne =>
        refine List.pairwise_cons.2 ⟨fun a ha => ?_, ih h.2⟩
        rcases mem_insertName.1 ha with rfl | ha
        · exact String.not_le.1 fun hle => hne (String.le_antisymm hle (String.not_lt.1 hnlt))
        · exact h.1 a ha

/-- A set of names. -/
structure NameSet where
  /-- The names, ascending. -/
  toList : List String
  ascending : toList.Pairwise (· < ·)
  deriving DecidableEq, Repr

namespace NameSet

/-- The set without names. -/
def empty : NameSet := ⟨[], List.Pairwise.nil⟩

/-- A set with one name more. -/
def insert (s : NameSet) (name : String) : NameSet :=
  ⟨insertName name s.toList, pairwise_insertName s.ascending⟩

/-- The set of the names of a list. -/
def ofList (names : List String) : NameSet :=
  names.foldr (fun name s => s.insert name) empty

/-- Whether a name belongs to the set. -/
def contains (s : NameSet) (name : String) : Bool :=
  s.toList.contains name

/-- Whether the set has no name. -/
def isEmpty (s : NameSet) : Bool :=
  s.toList.isEmpty

instance : Inhabited NameSet := ⟨empty⟩

@[simp] theorem toList_empty : empty.toList = [] := rfl

theorem contains_iff (s : NameSet) (name : String) : s.contains name = true ↔ name ∈ s.toList := by
  simp [contains]

@[simp] theorem contains_insert (s : NameSet) (a name : String) :
    (s.insert name).contains a = true ↔ a = name ∨ s.contains a = true := by
  simp [contains, insert]

@[simp] theorem contains_ofList (names : List String) (a : String) :
    (ofList names).contains a = true ↔ a ∈ names := by
  induction names with
  | nil => simp [ofList, contains]
  | cons n ns ih =>
    have : ofList (n :: ns) = (ofList ns).insert n := rfl
    simp [this, ih]

end NameSet

end ZeroTrust
