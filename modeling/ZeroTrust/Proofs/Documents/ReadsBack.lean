/-
  `Proofs.Documents.ReadsBack` — policies are read back from their documents.

  Each record is read back from the object it is written as, because each of its
  fields is: words because no two of an enumeration are the same, moments because
  their texts are (`Timestamp.parse?_toString`), sets of names because they are in
  order, and trees by induction over their nodes (`Tree.readsBack`). A version is
  read back if it is a number of sixty-four bits.
-/
import ZeroTrust.Ordered.Registry
import ZeroTrust.Proofs.Documents.Depth
import ZeroTrust.Proofs.Timestamp.RoundTrip

namespace ZeroTrust

open Json Json.Reader

/-! ### Words -/

theorem Kind.readsBack (kind : Kind) : ReadsBack (word all name) (fun k => .text k.name) kind :=
  readsBack_word (by cases kind <;> decide)

theorem Field.readsBack (field : Field) :
    ReadsBack (word all name) (fun f => .text f.name) field :=
  readsBack_word (by cases field <;> decide)

theorem Op.readsBack (op : Op) : ReadsBack (word all name) (fun o => .text o.name) op :=
  readsBack_word (by cases op <;> decide)

theorem Connective.readsBack (connective : Connective) :
    ReadsBack (word all name) (fun o => .text o.name) connective :=
  readsBack_word (by cases connective <;> decide)

theorem Effect.readsBack (effect : Effect) :
    ReadsBack (word all name) (fun e => .text e.name) effect :=
  readsBack_word (by cases effect <;> decide)

theorem DestinationKind.readsBack (kind : DestinationKind) :
    ReadsBack (word all name) (fun k => .text k.name) kind :=
  readsBack_word (by cases kind <;> decide)

theorem Stage.readsBack (stage : Stage) : ReadsBack reader (fun s => .text s.name) stage :=
  readsBack_word (by cases stage <;> decide)

/-! ### Trees

In each record below, `simp` looks the fields up among the members that the writer makes and puts in
what each of them is read as. Fields without room drop out, and what is left is the deepest part. -/

theorem Condition.readsBack (c : Condition) : ReadsBack reader toJson c := by
  refine readsBack_record ["type", "field", "op", "value"] 0 (fun _ _ => rfl) rfl c.depth_toJson
    (by decide) (List.Sublist.refl _) fun room => ?_
  simp (disch := simp [Registry.lookup_cons_eq_ite]) only [
    required_of_lookup c.kind.readsBack,
    optional_of_lookup (some c.field) fun f _ => f.readsBack,
    required_of_lookup c.op.readsBack, withDefault_of_lookup (readsBack_text c.value),
    elim_depth_eq_zero fun f : Field => depth_text f.name, depth_text, ifFits_zero, ok_bind]
  exact (ifFits_zero room c).symm

namespace Tree

theorem readsBack_leaf (c : Condition) : ReadsBack reader toJson (leaf c) := by
  have hnull : ∀ c : Condition, c.toJson ≠ .null := nofun
  refine readsBack_record ["operator", "children", "condition"] 1 reader_eq_node (by rw [toJson])
    (leaf c).depth_toJson (by decide) (by simp) fun room => ?_
  -- A leaf is written with the conjunction and without children.
  simp (disch := simp [Registry.lookup_cons_eq_ite, hnull]) only [
    withDefault_of_lookup (Connective.readsBack .and), optional_of_lookup_none,
    optional_of_lookup (some c) fun c _ => c.readsBack, depth_text, ifFits_zero, ok_bind,
    ifFits_bind]
  rfl

theorem readsBack_branch (o : Connective) {cs : List Tree}
    (h : ∀ t ∈ cs, ReadsBack reader toJson t) : ReadsBack reader toJson (branch o cs) := by
  have hcs : ∀ ts ∈ some cs, ReadsBack (list reader) (ofList toJson) ts := by
    rintro ts ⟨⟩
    exact readsBack_list h
  have hwrite : (branch o cs).toJson =
      object [("operator", .text o.name), ("children", ofList toJson cs)] := by
    rw [toJson, toJsonList_eq_map, ← ofList]
  have hdepth : (branch o cs).toJson.depth = 1 + (ofList toJson cs).depth := by
    rw [hwrite, depth_object]
    simp [depthItems]
  refine readsBack_record ["operator", "children", "condition"] _ reader_eq_node hwrite
    hdepth (by decide) (by simp) fun room => ?_
  simp (disch := simp [Registry.lookup_cons_eq_ite]) only [
    withDefault_of_lookup o.readsBack, optional_of_lookup (some cs) hcs,
    @optional_of_lookup_none Condition, depth_text, ifFits_zero, ok_bind, ifFits_bind]
  rfl

/-- **Every tree is read back.** -/
theorem readsBack (t : Tree) : ReadsBack reader toJson t := by
  induction t using Tree.induction with
  | leaf c => exact readsBack_leaf c
  | branch o cs ih => exact readsBack_branch o ih

end Tree

/-! ### Parts of policies -/

theorem readsBack_priority (priority : Int32) :
    ReadsBack priorityReader (fun n => .int n.toInt) priority := by
  intro room
  have hbounds : Int32.minValue.toInt ≤ priority.toInt ∧ priority.toInt ≤ Int32.maxValue.toInt :=
    ⟨priority.minValue_le_toInt, priority.toInt_le⟩
  rw [priorityReader, readsBack_int hbounds room, map_ifFits, Int32.ofInt_toInt]

theorem Timestamp.readsBack (moment : Timestamp) :
    ReadsBack (parsed parse?) (fun t => .text (toString t)) moment :=
  readsBack_parsed moment.parse?_toString

/-- A name before all others is put in front. -/
theorem insertName_of_lt {name : String} {ns : List String} (h : ∀ n ∈ ns, name < n) :
    insertName name ns = name :: ns := by
  cases ns with
  | nil => rfl
  | cons n ns => rw [insertName, if_pos (h n List.mem_cons_self)]

namespace NameSet

theorem eq_empty_of_isEmpty {s : NameSet} (h : s.isEmpty = true) : s = empty := by
  obtain ⟨ns, hns⟩ := s
  obtain rfl : ns = [] := List.isEmpty_iff.1 h
  rfl

/-- Names in order make the set whose list they are. -/
theorem ofList_of_ascending {ns : List String} (h : ns.Pairwise (· < ·)) :
    ofList ns = ⟨ns, h⟩ := by
  induction ns with
  | nil => rfl
  | cons n ns ih =>
    obtain ⟨hn, hns⟩ := List.pairwise_cons.1 h
    have hrest : ofList (n :: ns) = (ofList ns).insert n := rfl
    simp only [hrest, ih hns, insert, insertName_of_lt hn]

theorem readsBack (s : NameSet) : ReadsBack reader toJson s := by
  intro room
  rw [reader, toJson, readsBack_list (fun name _ => readsBack_text name) room, map_ifFits,
    ofList_of_ascending s.ascending]

end NameSet

section Members

variable (name key : String) (value : Option Json)

@[simp] theorem lookup_memberOfOption :
    (memberOfOption name value).lookup key = if key = name then value else none := by
  cases value with
  | none => simp [memberOfOption]
  | some v => simp [memberOfOption, Registry.lookup_cons_eq_ite]

/-- A member that may be left out has no name but its own. -/
theorem sublist_memberOfOption : ((memberOfOption name value).map Prod.fst).Sublist [name] := by
  cases value with
  | none => exact List.nil_sublist _
  | some v => exact List.Sublist.refl _

end Members

/-! ### Policies -/

/-- **Every access policy is read back**, if its version is a number of sixty-four bits. -/
theorem AccessPolicy.readsBack {p : AccessPolicy} (h : p.version < UInt64.size) :
    ReadsBack reader toJson p := by
  refine readsBack_record fieldNames _ (fun _ _ => rfl) (by rw [toJson, ite_eq_memberOfOption])
    p.depth_toJson (by decide) ?_ fun room => ?_
  case refine_1 =>
    -- The names of the record in pieces, cut where a member may be left out.
    show List.Sublist _ (["id", "name", "priority", "effect", "destination_type"] ++
      ["destination_cidr"] ++ ["destination_app_id"] ++ ["destination_sni"] ++
      ["root_node", "enabled"] ++ ["node_ids"] ++ ["version"] ++ ["updated_at"])
    have hone := sublist_memberOfOption
    simp only [List.map_append]
    exact (((((((List.Sublist.refl _).append (hone _ _)).append (hone _ _)).append
      (hone _ _)).append (.refl _)).append (hone _ _)).append (.refl _)).append (hone _ _)
  case refine_2 =>
    simp (disch := simp [Registry.lookup_cons_eq_ite, List.lookup_append]) only [
      withDefault_of_lookup (readsBack_text p.id), required_of_lookup (readsBack_text p.name),
      required_of_lookup (readsBack_priority p.priority), required_of_lookup p.effect.readsBack,
      withDefault_of_lookup p.destinationKind.readsBack,
      optional_of_lookup p.destinationCidr fun s _ => readsBack_text s,
      optional_of_lookup p.destinationApp fun s _ => readsBack_text s,
      optional_of_lookup p.destinationSni fun s _ => readsBack_text s,
      withDefault_of_lookup p.root.readsBack, withDefault_of_lookup (readsBack_bool p.enabled),
      withDefault_of_lookup_ite p.gateways.readsBack NameSet.eq_empty_of_isEmpty,
      withDefault_of_lookup (readsBack_nat h),
      optional_of_lookup p.updatedAt fun t _ => t.readsBack, elim_depth_eq_zero depth_text,
      elim_depth_eq_zero fun t : Timestamp => depth_text (toString t), depth_text, depth_int,
      depth_bool, ifFits_zero, ok_bind, ifFits_bind]
    -- Two parts are left, and the gateways need no more room than the tree.
    exact (ifFits_eq_ite p.depth_gateways_le room p).symm

/-- **Every sign-in policy is read back**, if its version is a number of sixty-four bits. -/
theorem SignInPolicy.readsBack {p : SignInPolicy} (h : p.version < UInt64.size) :
    ReadsBack reader toJson p := by
  refine readsBack_record fieldNames _ (fun _ _ => rfl) rfl p.depth_toJson (by decide) ?_
    fun room => ?_
  case refine_1 =>
    show List.Sublist _ (["id", "name", "priority", "block", "stage", "root_node", "enabled",
      "version"] ++ ["updated_at"])
    rw [List.map_append]
    exact (List.Sublist.refl _).append (sublist_memberOfOption _ _)
  case refine_2 =>
    simp (disch := simp [Registry.lookup_cons_eq_ite, List.lookup_append]) only [
      withDefault_of_lookup (readsBack_text p.id), required_of_lookup (readsBack_text p.name),
      required_of_lookup (readsBack_priority p.priority),
      withDefault_of_lookup (readsBack_bool p.block), required_of_lookup p.stage.readsBack,
      withDefault_of_lookup p.root.readsBack, withDefault_of_lookup (readsBack_bool p.enabled),
      withDefault_of_lookup (readsBack_nat h),
      optional_of_lookup p.updatedAt fun t _ => t.readsBack,
      elim_depth_eq_zero fun t : Timestamp => depth_text (toString t), depth_text, depth_int,
      depth_bool, ifFits_zero, ok_bind, ifFits_bind]
    rfl

/-! ### Bundles -/

theorem Application.readsBack (a : Application) : ReadsBack reader toJson a := by
  refine readsBack_record ["id", "name", "description", "cidrs"] 1 (fun _ _ => rfl) rfl
    a.depth_toJson (by decide) (List.Sublist.refl _) fun room => ?_
  simp (disch := simp [Registry.lookup_cons_eq_ite]) only [
    required_of_lookup (readsBack_text a.id), required_of_lookup (readsBack_text a.name),
    withDefault_of_lookup (readsBack_text a.description),
    withDefault_of_lookup (readsBack_list fun s (_ : s ∈ a.cidrs) => readsBack_text s),
    depth_text, depth_ofList_text, ifFits_zero, ok_bind, ifFits_bind]
  rfl

/-- **Every bundle is read back**, if its versions are numbers of sixty-four bits. -/
theorem Bundle.readsBack {b : Bundle} (haccess : ∀ p ∈ b.access, p.version < UInt64.size)
    (hsignIn : ∀ p ∈ b.signIn, p.version < UInt64.size) : ReadsBack reader toJson b := by
  refine readsBack_record ["access_policies", "sign_in_policies", "applications"] _
    (fun _ _ => rfl) rfl b.depth_toJson (by decide) (List.Sublist.refl _) fun room => ?_
  simp (disch := simp [Registry.lookup_cons_eq_ite]) only [
    withDefault_of_lookup (readsBack_list fun p hp => AccessPolicy.readsBack (haccess p hp)),
    withDefault_of_lookup (readsBack_list fun p hp => SignInPolicy.readsBack (hsignIn p hp)),
    withDefault_of_lookup (readsBack_list fun a (_ : a ∈ b.applications) => a.readsBack),
    ifFits_bind, ifFits_max]
  rfl

end ZeroTrust
