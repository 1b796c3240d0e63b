/-
  `Proofs.Json.ReadsBack` — readers that undo a writer.

  A reader reads a value back if, handed the document that the value is written as,
  it gives the value where there is room for the document and refuses the document
  where there is not (`ReadsBack`). The answer depends on the depth of the document
  alone, so the answers of the parts of a record or a list combine to the answer of
  the whole (`ifFits_bind`): a record is as deep as its deepest field and one more.

  The lemmas come in the order of the readers: simple values, lists, fields and
  records. A record is read back from an object that has its fields in order, some
  of them left out, as writers leave out what has a default (`readsBack_record`).
-/
import ZeroTrust.Proofs.Json.RoundTrip
import ZeroTrust.Json.Reader

namespace ZeroTrust.Json

/-! ### Depth -/

@[simp] theorem depth_text (s : String) : (text s).depth = 0 :=
  rfl

@[simp] theorem depth_int (n : Int) : (int n).depth = 0 :=
  rfl

@[simp] theorem depth_bool (b : Bool) : (bool b).depth = 0 :=
  rfl

theorem depthItems_append (vs ws : List Json) :
    depthItems (vs ++ ws) = max (depthItems vs) (depthItems ws) := by
  induction vs with
  | nil => simp [depthItems]
  | cons v vs ih => rw [List.cons_append, depthItems, depthItems, ih, Nat.max_assoc]

theorem depth_object (members : List (String × Json)) :
    (object members).depth = 1 + depthItems (members.map Prod.snd) := by
  rw [object, depth]
  congr 1
  induction members with
  | nil => rfl
  | cons m members ih => rw [List.map_cons, List.map_cons, depthMembers, depthItems, ih]

@[simp] theorem depth_ofList_text (items : List String) : (ofList text items).depth = 1 := by
  rw [ofList, depth]
  induction items with
  | nil => rfl
  | cons item items ih =>
    rw [List.map_cons, depthItems, depth_text, Nat.zero_max]
    exact ih

/-- What takes no room takes none where it is left out. -/
theorem elim_depth_eq_zero {α : Type} {toJson : α → Json} (h : ∀ a, (toJson a).depth = 0)
    (value : Option α) : (value.map toJson).elim 0 depth = 0 := by
  cases value with
  | none => rfl
  | some a => exact h a

namespace Reader

variable {α β : Type}

/-! ### Room -/

/-- The value that a document of some depth holds, if there is room for the document. -/
def ifFits (depth room : Nat) (a : α) : Except ReadError α :=
  if depth ≤ room then .ok a else .error .unreadable

theorem ifFits_of_le {depth room : Nat} (h : depth ≤ room) (a : α) : ifFits depth room a = .ok a :=
  if_pos h

theorem ifFits_of_lt {depth room : Nat} (h : room < depth) (a : α) :
    ifFits depth room a = .error .unreadable :=
  if_neg (by omega)

@[simp] theorem ifFits_zero (room : Nat) (a : α) : ifFits 0 room a = .ok a :=
  ifFits_of_le (Nat.zero_le room) a

@[simp] theorem ifFits_succ (depth room : Nat) (a : α) :
    ifFits (1 + depth) (room + 1) a = ifFits depth room a := by
  simp only [ifFits, Nat.add_comm 1 depth, Nat.add_le_add_iff_right]

theorem ifFits_bind (depth room : Nat) (a : α) (f : α → Except ReadError β) :
    (ifFits depth room a >>= f) = if depth ≤ room then f a else .error .unreadable := by
  rw [ifFits]
  split <;> rfl

/-- Two parts fit where the deeper one fits. -/
theorem ifFits_max (d e room : Nat) (a : α) :
    ifFits (max d e) room a = if d ≤ room then ifFits e room a else .error .unreadable := by
  rw [ifFits, ifFits]
  by_cases h : d ≤ room
  · simp only [Nat.max_le, h, true_and, if_true]
  · simp only [Nat.max_le, h, false_and, if_false]

theorem ifFits_eq_ite {d e : Nat} (h : e ≤ d) (room : Nat) (a : α) :
    ifFits d room a = if d ≤ room then ifFits e room a else .error .unreadable := by
  rw [← ifFits_max, Nat.max_eq_left h]

@[simp] theorem ok_bind (a : α) (f : α → Except ReadError β) : (Except.ok a >>= f) = f a :=
  rfl

theorem map_ifFits (d room : Nat) (a : α) (f : α → β) :
    f <$> ifFits d room a = ifFits d room (f a) := by
  rw [ifFits, ifFits]
  split <;> rfl

/-- A reader reads a value back from the document it is written as, where there is room for the
document, and refuses the document where there is not. -/
def ReadsBack (read : Reader α) (toJson : α → Json) (a : α) : Prop :=
  ∀ room, read room (toJson a) = ifFits (toJson a).depth room a

/-! ### Simple values -/

theorem readsBack_text (s : String) : ReadsBack text .text s :=
  fun room => (ifFits_zero room s).symm

theorem readsBack_bool (b : Bool) : ReadsBack bool .bool b :=
  fun room => (ifFits_zero room b).symm

theorem readsBack_int {least greatest n : Int} (h : least ≤ n ∧ n ≤ greatest) :
    ReadsBack (int least greatest) .int n := by
  intro room
  rw [int, if_pos h]
  exact (ifFits_zero room n).symm

theorem readsBack_nat {n : Nat} (h : n < UInt64.size) : ReadsBack nat (fun n => .int n) n := by
  intro room
  have hbounds : (0 : Int) ≤ n ∧ (n : Int) ≤ (UInt64.size : Int) - 1 := by omega
  rw [nat, readsBack_int hbounds room, map_ifFits]
  exact (ifFits_zero room n).symm

/-- A text is read back if the reading of texts gives its meaning back. -/
theorem readsBack_parsed {parse? : String → Option α} {toText : α → String} {a : α}
    (h : parse? (toText a) = some a) : ReadsBack (parsed parse?) (fun a => .text (toText a)) a := by
  intro room
  rw [parsed, readsBack_text _ room, depth_text, ifFits_zero, ok_bind, h]
  exact (ifFits_zero room a).symm

/-- A word is read back if it is the word of no value before. -/
theorem readsBack_word {values : List α} {name : α → String} {a : α}
    (h : values.find? (fun b => name b == name a) = some a) :
    ReadsBack (word values name) (fun a => .text (name a)) a := by
  intro room
  show word.find values name (name a) = _
  rw [word.find, h]
  exact (ifFits_zero room a).symm

/-! ### Lists -/

theorem mapM_map_toJson {read : Reader α} {toJson : α → Json} (room : Nat) {items : List α}
    (h : ∀ a ∈ items, ReadsBack read toJson a) :
    (items.map toJson).mapM (read room) = ifFits (depthItems (items.map toJson)) room items := by
  induction items with
  | nil => exact (ifFits_zero room []).symm
  | cons a items ih =>
    obtain ⟨ha, hitems⟩ := List.forall_mem_cons.1 h
    rw [List.map_cons, List.mapM_cons, ha room, ih hitems, depthItems]
    simp only [bind_pure_comp, map_ifFits, ifFits_bind, ifFits_max]

theorem readsBack_list {read : Reader α} {toJson : α → Json} {items : List α}
    (h : ∀ a ∈ items, ReadsBack read toJson a) :
    ReadsBack (list read) (ofList toJson) items := by
  intro room
  rw [ofList, depth]
  cases room with
  -- The array itself takes up one, whatever is in it.
  | zero => exact (ifFits_of_lt (by omega) items).symm
  | succ room => rw [ifFits_succ, list, mapM_map_toJson room h]

/-! ### Fields -/

@[simp] theorem text_ne_null (s : String) : Json.text s ≠ .null :=
  nofun

@[simp] theorem ofList_ne_null (toJson : α → Json) (items : List α) : ofList toJson items ≠ .null :=
  nofun

section Fields

variable {fields : Fields} {name : String} {read : Reader α} {toJson : α → Json} {default a : α}

theorem required_of_lookup (h : ReadsBack read toJson a)
    (hlookup : fields.lookup name = some (toJson a)) (room : Nat) :
    fields.required name read room = ifFits (toJson a).depth room a := by
  rw [Fields.required, hlookup]
  exact h room

theorem withDefault_of_lookup (h : ReadsBack read toJson a)
    (hlookup : fields.lookup name = some (toJson a)) (room : Nat) :
    fields.withDefault name default read room = ifFits (toJson a).depth room a := by
  rw [Fields.withDefault, hlookup]
  exact h room

/-- A field that has its default value where it is left out. -/
theorem withDefault_of_lookup_ite {c : Prop} [Decidable c] (h : ReadsBack read toJson a)
    (hdefault : c → a = default)
    (hlookup : fields.lookup name = if c then none else some (toJson a)) (room : Nat) :
    fields.withDefault name default read room =
      ifFits ((if c then none else some (toJson a)).elim 0 depth) room a := by
  rw [Fields.withDefault, hlookup]
  by_cases hc : c
  · rw [if_pos hc, hdefault hc]
    exact (ifFits_zero room default).symm
  · rw [if_neg hc]
    exact h room

theorem optional_of_lookup_none (hlookup : fields.lookup name = none) (room : Nat) :
    fields.optional name read room = .ok none := by
  rw [Fields.optional, Fields.withDefault, hlookup]

/-- A field that has no value where it is left out. -/
theorem optional_of_lookup (value : Option α) (h : ∀ a ∈ value, ReadsBack read toJson a)
    (hnull : ∀ a, toJson a ≠ .null) (hlookup : fields.lookup name = value.map toJson) (room : Nat) :
    fields.optional name read room = ifFits ((value.map toJson).elim 0 depth) room value := by
  cases value with
  | none => exact (optional_of_lookup_none hlookup room).trans (ifFits_zero room none).symm
  | some a =>
    rw [Fields.optional, Fields.withDefault, hlookup]
    show nullable read room (toJson a) = _
    -- A value is not taken for a missing one, as none is written as `null`.
    rw [nullable, h a rfl room, map_ifFits]
    · rfl
    · exact hnull a

end Fields

/-! ### Records -/

/-- An object whose members are fields of a record, in order, gives those fields. -/
theorem knownMembers_map {names : List String} {members : Fields} (hnames : names.Nodup)
    (hmembers : (members.map Prod.fst).Sublist names) :
    knownMembers names (members.map fun (name, value) => (some name, value)) = .ok members := by
  have hnodup : (members.map Prod.fst).Nodup := hnames.sublist hmembers
  have hknown : ∀ m ∈ members, m.1 ∈ names :=
    fun m hm => hmembers.subset (List.mem_map_of_mem hm)
  clear hmembers
  induction members with
  | nil => rfl
  | cons m members ih =>
    obtain ⟨hnew, hnodup⟩ := List.nodup_cons.1 hnodup
    obtain ⟨hm, hknown⟩ := List.forall_mem_cons.1 hknown
    -- No other member has the name, so it is not refused as a repetition.
    have hfresh : (members.any fun field => field.1 == m.1) = false := by
      rw [List.any_eq_false]
      intro field hfield heq
      exact hnew (by rw [← eq_of_beq heq]; exact List.mem_map_of_mem hfield)
    rw [List.map_cons, knownMembers, ih hnodup hknown]
    simp [bind, Except.bind, pure, Except.pure, hm, hfresh]

/-- **A record is read back** from an object that has its fields in order, some of them left out, if
the fields are. -/
theorem readsBack_record {read : Reader α} {toJson : α → Json} {a : α} {members : Fields}
    {body : Nat × Fields → Except ReadError α} (names : List String) (inside : Nat)
    (hread : ∀ room v, read room v = fields names room v >>= body)
    (hwrite : toJson a = object members) (hdepth : (toJson a).depth = 1 + inside)
    (hnames : names.Nodup) (hmembers : (members.map Prod.fst).Sublist names)
    (hbody : ∀ room, body (room, members) = ifFits inside room a) :
    ReadsBack read toJson a := by
  intro room
  rw [hread, hdepth, hwrite]
  cases room with
  | zero => exact (ifFits_of_lt (by omega) a).symm
  | succ room =>
    rw [object, fields, knownMembers_map hnames hmembers, ifFits_succ]
    exact hbody room

end Reader

end ZeroTrust.Json
