/-
  `Proofs.Json.Gives` — what readers can give.

  A value that a reader gives for some document tells how much room there was: the
  parts of a record were read with one less than the record, and the items of a list
  with one less than the list. So bounds on what a reader gives follow from the room
  alone, whatever the document was (`Gives`). The lemmas take readers apart in the
  order in which they are put together.
-/
import ZeroTrust.Json.Reader
import ZeroTrust.Proofs.Except

namespace ZeroTrust.Json.Reader

variable {α : Type} {read : Reader α} {room : Nat}

/-- A value that a reader gives for some document, with a given room. -/
def Gives (read : Reader α) (room : Nat) (a : α) : Prop :=
  ∃ v, read room v = .ok a

theorem lt_of_gives_nat {n : Nat} (h : Gives nat room n) : n < UInt64.size := by
  obtain ⟨v, hv⟩ := h
  obtain ⟨m, hm, rfl⟩ := (Except.map_eq_ok_iff _ _ _).1 hv
  cases v <;> simp only [int, reduceCtorEq] at hm
  case int k =>
    split at hm
    case isTrue hbounds =>
      obtain rfl := Except.ok.inj hm
      omega
    case isFalse => cases hm

theorem gives_of_nullable {value : Option α} (h : Gives (nullable read) room value) :
    ∀ a ∈ value, Gives read room a := by
  rintro a rfl
  obtain ⟨v, hv⟩ := h
  unfold nullable at hv
  split at hv
  · cases hv
  · obtain ⟨b, hb, hba⟩ := (Except.map_eq_ok_iff _ _ _).1 hv
    obtain rfl := Option.some.inj hba
    exact ⟨_, hb⟩

theorem gives_of_mapM {vs : List Json} {items : List α} (h : vs.mapM (read room) = .ok items) :
    ∀ a ∈ items, Gives read room a := by
  induction vs generalizing items with
  | nil =>
    obtain rfl := Except.ok.inj h
    exact List.forall_mem_nil _
  | cons v vs ih =>
    rw [List.mapM_cons, Except.bind_eq_ok_iff] at h
    obtain ⟨a, ha, h⟩ := h
    obtain ⟨as, has, h⟩ := (Except.bind_eq_ok_iff _ _ _).1 h
    obtain rfl := (Except.pure_eq_ok_iff _ _).1 h
    exact List.forall_mem_cons.2 ⟨⟨v, ha⟩, ih has⟩

theorem gives_of_list {items : List α} (h : Gives (list read) room items) :
    ∃ inside, room = inside + 1 ∧ ∀ a ∈ items, Gives read inside a := by
  obtain ⟨v, hv⟩ := h
  unfold list at hv
  split at hv
  case h_1 inside vs => exact ⟨inside, rfl, gives_of_mapM hv⟩
  case h_2 => cases hv

/-- A field has its default or is read. -/
theorem eq_or_gives_of_withDefault {fields : Fields} {name : String} {default a : α}
    (h : fields.withDefault name default read room = .ok a) : a = default ∨ Gives read room a := by
  rw [Fields.withDefault] at h
  split at h
  · exact .inr ⟨_, h⟩
  · exact .inl (Except.ok.inj h).symm

theorem lt_of_withDefault_nat {fields : Fields} {name : String} {n : Nat}
    (h : fields.withDefault name 0 nat room = .ok n) : n < UInt64.size := by
  obtain rfl | hgives := eq_or_gives_of_withDefault h
  · exact Nat.succ_pos _
  · exact lt_of_gives_nat hgives

theorem gives_of_optional {fields : Fields} {name : String} {value : Option α}
    (h : fields.optional name read room = .ok value) : ∀ a ∈ value, Gives read room a := by
  obtain rfl | hvalue := eq_or_gives_of_withDefault h
  · nofun
  · exact gives_of_nullable hvalue

/-- Fields are read inside their record. -/
theorem room_of_fields {names : List String} {v : Json} {inside : Nat} {given : Fields}
    (h : fields names room v = .ok (inside, given)) : room = inside + 1 := by
  unfold fields at h
  split at h
  · obtain ⟨members, -, h⟩ := (Except.bind_eq_ok_iff _ _ _).1 h
    obtain ⟨rfl, -⟩ := Prod.mk.inj ((Except.pure_eq_ok_iff _ _).1 h)
    rfl
  · split at h
    · obtain ⟨rfl, -⟩ := Prod.mk.inj (Except.ok.inj h)
      rfl
    · cases h
  · cases h

theorem gives_of_withDefault_list {fields : Fields} {name : String} {items : List α}
    (h : fields.withDefault name [] (list read) room = .ok items) :
    ∀ a ∈ items, Gives read (room - 1) a := by
  obtain rfl | hgives := eq_or_gives_of_withDefault h
  · exact List.forall_mem_nil _
  · obtain ⟨inside, rfl, hitems⟩ := gives_of_list hgives
    exact hitems

end ZeroTrust.Json.Reader
