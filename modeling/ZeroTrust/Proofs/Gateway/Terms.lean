/-
  `Proofs.Gateway.Terms` — the terms of a tree say what the tree says.

  A reading of tags says of each tag whether the source of a request carries it. A
  term holds when all of its tags do, and a list of terms when some term does
  (`anyTermHolds`). Joining terms is conjunction, putting them one after another is
  disjunction, so whatever expansion of a tree there is holds exactly when the tree
  does, its conditions read by their tags (`anyTermHolds_expand`).

  No tag expresses a condition exactly when it cannot be evaluated either
  (`exists_tag_eq_error_iff`). So under a reading that agrees with evaluation on the
  conditions of a tree, the terms hold when the tree is true, the unknown taken for
  what expansion takes it for (`anyTermHolds_of_agrees`): when it is true, for a policy
  that allows, and when it is not false, for one that denies
  (`exists_term_iff_evaluate`).
-/
import ZeroTrust.Gateway.Expansion
import ZeroTrust.Proofs.Evaluation.Boolean
import ZeroTrust.Proofs.Text.Trimming

namespace ZeroTrust.Gateway

/-! ### Terms under a reading of tags -/

/-- Whether some term holds, of which every tag holds. -/
def anyTermHolds (reads : Tag → Bool) (terms : List Term) : Bool :=
  terms.any fun term => term.all reads

section Reading

variable (reads : Tag → Bool)

theorem all_conjoin (term other : Term) :
    (conjoin term other).all reads = (term.all reads && other.all reads) := by
  induction other generalizing term with
  | nil => simp [conjoin]
  | cons t other ih =>
    rw [conjoin, ih, List.all_cons]
    split
    case isTrue h =>
      -- A tag that is there already is read there.
      have hmem : t ∈ term := List.contains_iff_mem.1 h
      cases hterm : term.all reads with
      | false => rfl
      | true => rw [List.all_eq_true.1 hterm t hmem, Bool.true_and, Bool.true_and]
    case isFalse => rw [List.all_append, List.all_cons, List.all_nil, Bool.and_true, Bool.and_assoc]

theorem anyTermHolds_eq_true_iff (terms : List Term) :
    anyTermHolds reads terms = true ↔ ∃ term ∈ terms, ∀ t ∈ term, reads t = true := by
  simp [anyTermHolds]

theorem anyTermHolds_cons (term : Term) (terms : List Term) :
    anyTermHolds reads (term :: terms) = (term.all reads || anyTermHolds reads terms) :=
  List.any_cons

theorem anyTermHolds_append (terms alternatives : List Term) :
    anyTermHolds reads (terms ++ alternatives) =
      (anyTermHolds reads terms || anyTermHolds reads alternatives) :=
  List.any_append

theorem anyTermHolds_map_conjoin (term : Term) (alternatives : List Term) :
    anyTermHolds reads (alternatives.map (conjoin term)) =
      (term.all reads && anyTermHolds reads alternatives) := by
  induction alternatives with
  | nil => simp [anyTermHolds]
  | cons alternative alternatives ih =>
    rw [List.map_cons, anyTermHolds_cons, anyTermHolds_cons, ih, all_conjoin,
      Bool.and_or_distrib_left]

theorem anyTermHolds_product (terms alternatives : List Term) :
    anyTermHolds reads (product terms alternatives) =
      (anyTermHolds reads terms && anyTermHolds reads alternatives) := by
  induction terms with
  | nil => rfl
  | cons term terms ih =>
    rw [product] at ih ⊢
    rw [List.flatMap_cons, anyTermHolds_append, ih, anyTermHolds_map_conjoin, anyTermHolds_cons,
      Bool.and_or_distrib_right]

theorem anyTermHolds_constant (b : Bool) : anyTermHolds reads (constant b) = b := by
  cases b <;> rfl

/-! ### Expansion -/

/-- How a condition is read: by its tag, or as `unknownAs` where it has none. -/
def readCondition (unknownAs : Bool) (c : Condition) : Bool :=
  match tag c with
  | .ok t => reads t
  | .error _ => unknownAs

theorem anyTermHolds_conditionTerms (unknownAs : Bool) (c : Condition) :
    anyTermHolds reads (conditionTerms unknownAs c) = readCondition reads unknownAs c := by
  rw [conditionTerms, readCondition]
  cases tag c with
  | ok t => simp [anyTermHolds]
  | error fault => exact anyTermHolds_constant reads unknownAs

variable {o : ExpandOptions}

/-- The terms of a conjunction hold when those so far do and all of its members. -/
theorem anyTermHolds_expandAll {ts : List Tree}
    (h : ∀ t ∈ ts, ∀ terms, expand o t = some terms →
      anyTermHolds reads terms = t.holds (readCondition reads o.unknownAs) o.vacuousOr)
    (sofar : List Term) {terms : List Term} (hterms : expandAll o sofar ts = some terms) :
    anyTermHolds reads terms =
      (anyTermHolds reads sofar &&
        ts.all (Tree.holds (readCondition reads o.unknownAs) o.vacuousOr)) := by
  induction ts generalizing sofar with
  | nil =>
    rw [expandAll] at hterms
    rw [← Option.some.inj hterms, List.all_nil, Bool.and_true]
  | cons t ts ih =>
    obtain ⟨others, ht, -, hterms⟩ := expandAll_cons_eq_some_iff.1 hterms
    rw [ih (fun u hu => h u (List.mem_cons_of_mem _ hu)) _ hterms, anyTermHolds_product,
      h t List.mem_cons_self others ht, List.all_cons, Bool.and_assoc]

/-- The terms of a disjunction hold when those so far do or one of its members. -/
theorem anyTermHolds_expandAny {ts : List Tree}
    (h : ∀ t ∈ ts, ∀ terms, expand o t = some terms →
      anyTermHolds reads terms = t.holds (readCondition reads o.unknownAs) o.vacuousOr)
    (sofar : List Term) {terms : List Term} (hterms : expandAny o sofar ts = some terms) :
    anyTermHolds reads terms =
      (anyTermHolds reads sofar ||
        ts.any (Tree.holds (readCondition reads o.unknownAs) o.vacuousOr)) := by
  induction ts generalizing sofar with
  | nil =>
    rw [expandAny] at hterms
    rw [← Option.some.inj hterms, List.any_nil, Bool.or_false]
  | cons t ts ih =>
    obtain ⟨others, ht, -, hterms⟩ := expandAny_cons_eq_some_iff.1 hterms
    rw [ih (fun u hu => h u (List.mem_cons_of_mem _ hu)) _ hterms, anyTermHolds_append,
      h t List.mem_cons_self others ht, List.any_cons, Bool.or_assoc]

/-- **The terms of a tree hold exactly when the tree does**, its conditions read by their tags. -/
theorem anyTermHolds_expand (t : Tree) (terms : List Term) (hterms : expand o t = some terms) :
    anyTermHolds reads terms = t.holds (readCondition reads o.unknownAs) o.vacuousOr := by
  induction t using Tree.induction generalizing terms with
  | leaf c =>
    rw [expand] at hterms
    rw [← Option.some.inj hterms, anyTermHolds_conditionTerms, Tree.holds_leaf]
  | branch connective cs ih =>
    match connective, cs, ih, hterms with
    | .and, cs, ih, hterms =>
      -- The one term to begin with is empty and holds.
      rw [expand] at hterms
      rw [anyTermHolds_expandAll reads ih [[]] hterms, Tree.holds_and]
      rfl
    | .or, [], _, hterms =>
      rw [expand] at hterms
      rw [← Option.some.inj hterms, anyTermHolds_constant, Tree.holds_or_nil]
    | .or, c :: cs, ih, hterms =>
      rw [expand] at hterms
      rw [anyTermHolds_expandAny reads ih [] hterms, Tree.holds_or_cons]
      rfl

end Reading

/-! ### Tags and queries -/

/-- A condition has no tag exactly when it has no query. -/
theorem exists_tag_eq_error_iff (c : Condition) :
    (∃ fault, tag c = .error fault) ↔ ∃ fault, c.query = .error fault := by
  obtain ⟨kind, field, op, value⟩ := c
  rw [tag, Condition.query]
  cases hallowed : kind.allows op with
  | false => simp
  | true =>
    simp only [Bool.not_true, Bool.false_eq_true, if_false]
    -- The grammar asks for a value that is not blank, the query for one that is not empty.
    have hblank : Text.isBlankText (Text.trim value) = true ↔ Text.trim value = "" := by
      rw [Text.isBlankText_iff, Text.trim_trim]
    cases op with
    | inGroup =>
      simp only [Op.faultOf?, hblank]
      by_cases hvalue : Text.trim value = "" <;> simp [tagOf, hvalue]
    | is =>
      simp only [Op.faultOf?, hblank]
      by_cases hvalue : Text.trim value = "" <;> simp [tagOf, hvalue]
    | emailSuffix =>
      simp only [Op.faultOf?, hblank]
      by_cases hdomain :
          Text.lower (String.ofList ((Text.trim value).toList.dropWhile (· == '@'))) = ""
      · -- Without a domain there is no tag and no query, whatever the fault of the value is.
        by_cases hvalue : Text.trim value = ""
        · simp only [hvalue, if_true]
          exact ⟨fun _ => ⟨.emptyDomain, rfl⟩, fun _ => ⟨_, rfl⟩⟩
        · simp only [hvalue, if_false, tagOf, hdomain, if_true]
          exact ⟨fun _ => ⟨_, rfl⟩, fun _ => ⟨_, rfl⟩⟩
      · -- Nothing is left of the empty value.
        have hvalue : Text.trim value ≠ "" := fun hvalue => hdomain (by rw [hvalue]; rfl)
        simp only [hvalue, if_false, tagOf, hdomain]
        simp
    | cidr =>
      cases hparse : Net.Cidr.parse? (Text.trim value) <;> simp [Op.faultOf?, tagOf, hparse]
    | country =>
      cases hknown : Country.isKnown (Text.trim value) <;> simp [Op.faultOf?, tagOf, hknown]
    | isPrivate => simp [Op.faultOf?, tagOf]
    | os =>
      cases hnamed : OperatingSystem.named? (Text.trim value) <;> simp [Op.faultOf?, tagOf, hnamed]
    | managed => simp [Op.faultOf?, tagOf]

/-! ### Readings that agree with evaluation -/

/-- Whether a reading of tags agrees with the evaluation of some conditions: a source carries the
tag of a condition exactly when the condition is true. -/
def Agrees (reads : Tag → Bool) (facts : Facts) (conditions : List Condition) : Prop :=
  ∀ c ∈ conditions, ∀ t, tag c = .ok t → (reads t = true ↔ c.evaluate facts = .yes)

instance (reads : Tag → Bool) (facts : Facts) (conditions : List Condition) :
    Decidable (Agrees reads facts conditions) :=
  decidable_of_iff (∀ c ∈ conditions, ∀ t ∈ (tag c).toOption,
    (reads t = true ↔ c.evaluate facts = .yes)) <| by
    refine forall₂_congr fun c _ => forall_congr' fun t => ?_
    cases tag c <;> simp [Except.toOption]

variable {reads : Tag → Bool} {facts : Facts}

theorem readCondition_of_agrees (unknownAs : Bool) {c : Condition}
    (h : ∀ t, tag c = .ok t → (reads t = true ↔ c.evaluate facts = .yes)) :
    readCondition reads unknownAs c = (c.evaluate facts).assume unknownAs := by
  rw [readCondition]
  cases htag : tag c with
  | ok t =>
    show reads t = _
    cases hvalue : c.evaluate facts with
    | yes => exact (h t htag).2 hvalue
    | no =>
      rw [Truth.assume_no, Bool.eq_false_iff, ne_eq, h t htag, hvalue]
      exact Truth.noConfusion
    | unknown fault =>
      -- A condition with a tag has a query, so it is not unknown.
      have hquery := (c.evaluate_eq_unknown_iff facts fault).1 hvalue
      obtain ⟨_, herror⟩ := (exists_tag_eq_error_iff c).2 ⟨fault, hquery⟩
      rw [htag] at herror
      cases herror
  | error fault =>
    obtain ⟨fault', hquery⟩ := (exists_tag_eq_error_iff c).1 ⟨fault, htag⟩
    rw [(c.evaluate_eq_unknown_iff facts fault').2 hquery]
    rfl

/-- **Under a reading that agrees with evaluation**, the terms of a tree hold when the tree is true,
with the unknown taken for what the expansion takes it for. -/
theorem anyTermHolds_of_agrees {o : ExpandOptions} {t : Tree} {terms : List Term}
    (hagrees : Agrees reads facts t.conditions) (hvacuous : facts.vacuousOr = o.vacuousOr)
    (hterms : expand o t = some terms) :
    anyTermHolds reads terms = (t.evaluate facts).assume o.unknownAs := by
  rw [anyTermHolds_expand reads t terms hterms, Tree.assume_evaluate, hvacuous]
  exact Tree.holds_congr o.vacuousOr t fun c hc =>
    readCondition_of_agrees o.unknownAs (hagrees c hc)

/-- **Expansion keeps the meaning of a tree.** Under a reading that agrees with evaluation on the
conditions of a tree, and where conditions without a tag count as false, some term holds exactly
when the tree is true; where they count as true, exactly when it is not false. The conditions
without a tag are those that are unknown, whatever the facts. -/
theorem exists_term_iff_evaluate (o : ExpandOptions) (t : Tree) (facts : Facts)
    (reads : Tag → Bool) (hvacuous : facts.vacuousOr = o.vacuousOr)
    (hagrees : Agrees reads facts t.conditions) :
    (∀ terms, expand { o with unknownAs := false } t = some terms →
        ((∃ term ∈ terms, ∀ g ∈ term, reads g = true) ↔ t.evaluate facts = .yes)) ∧
      (∀ terms, expand { o with unknownAs := true } t = some terms →
        ((∃ term ∈ terms, ∀ g ∈ term, reads g = true) ↔ t.evaluate facts ≠ .no)) ∧
      ∀ (c : Condition) (facts' : Facts),
        (∃ fault, tag c = .error fault) ↔ ∃ fault, c.evaluate facts' = .unknown fault := by
  refine ⟨fun terms hterms => ?_, fun terms hterms => ?_, fun c facts' => ?_⟩
  · have hholds :=
      anyTermHolds_of_agrees (o := { o with unknownAs := false }) hagrees hvacuous hterms
    rw [← anyTermHolds_eq_true_iff, hholds, Truth.eq_yes_iff]
  · have hholds :=
      anyTermHolds_of_agrees (o := { o with unknownAs := true }) hagrees hvacuous hterms
    rw [← anyTermHolds_eq_true_iff, hholds, ne_eq, Truth.eq_no_iff, Bool.not_eq_false]
  · rw [exists_tag_eq_error_iff]
    exact exists_congr fun fault => (c.evaluate_eq_unknown_iff facts' fault).symm

/-- Engineers on one of two systems, of which one is none. -/
def engineers : Tree :=
  .branch .and [
    .leaf (.ofOp .inGroup " eng "),
    .branch .or [.leaf (.ofOp .os "linux"), .leaf (.ofOp .os "plan9")]]

/-- What is known of an engineer on a third system. -/
def engineerFacts : Facts :=
  ⟨{ Request.empty with
      user := some ⟨"ada@example.com", .ofList ["eng"]⟩
      device := some ⟨some .darwin, false⟩ }, none, true⟩

/-- The tags that the engineer carries. -/
def engineerTags (t : Tag) : Bool :=
  t == ⟨.identity, "group:eng"⟩ || t == ⟨.deviceOs, "darwin"⟩

/-- The tree is unknown of the engineer: no term holds with the system that is none taken for false,
and one does with it taken for true. -/
theorem exists_term_iff_evaluate_engineers :
    Agrees engineerTags engineerFacts engineers.conditions ∧
      engineers.evaluate engineerFacts = .unknown (.unknownSystem "plan9") ∧
      (¬ ∃ term ∈ [[⟨.identity, "group:eng"⟩, ⟨.deviceOs, "linux"⟩]],
        ∀ g ∈ term, engineerTags g = true) ∧
      (∃ term ∈ [[⟨.identity, "group:eng"⟩, ⟨.deviceOs, "linux"⟩], [⟨.identity, "group:eng"⟩]],
        ∀ g ∈ term, engineerTags g = true) ∧
      ∃ fault, tag (.ofOp .os "plan9") = .error fault := by
  have hagrees : Agrees engineerTags engineerFacts engineers.conditions := by decide +kernel
  have hvalue : engineers.evaluate engineerFacts = .unknown (.unknownSystem "plan9") := by
    decide +kernel
  obtain ⟨hfalse, htrue, hunknown⟩ :=
    exists_term_iff_evaluate ⟨false, true, 64⟩ engineers engineerFacts engineerTags rfl hagrees
  refine ⟨hagrees, hvalue, ?_, ?_, (hunknown _ engineerFacts).2 ⟨.unknownSystem "plan9", ?_⟩⟩
  · rw [hfalse _ (by decide +kernel), hvalue]
    exact Truth.noConfusion
  · rw [htrue _ (by decide +kernel), hvalue]
    exact Truth.noConfusion
  · decide +kernel

end ZeroTrust.Gateway
