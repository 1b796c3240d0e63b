/-
  `Proofs.Gateway.Readings` — what a tag keeps of its condition.

  A gateway sees tags and no conditions, so it can agree with evaluation only where
  conditions with one tag ask for one thing. Each tag asks something itself
  (`Tag.query?`): what its condition asks, with mail addresses and domains in small
  letters, and with groups under their names without the mark. A source that is read
  that way agrees with evaluation on every condition whose group is not written with
  the mark (`evaluate_of_tag`).

  The mark is set before the name of a group unless the name carries it already. So a
  group and the group of the same name with the mark in front have one tag, and they
  are different groups to evaluation (`evaluate_ne_of_marked_group`). Such twins are
  the only conditions that share a tag and not their values, and a reading that agrees
  with evaluation on some conditions exists exactly when there are no twins among them
  (`evaluate_eq_iff_of_tag_eq`).
-/
import Mathlib.Data.Set.Defs
import ZeroTrust.Proofs.Gateway.Terms

namespace ZeroTrust.Gateway

/-! ### The mark of groups -/

/-- Whether the name of a group carries the mark. -/
def isMarked (group : String) : Bool :=
  groupMark.toList.isPrefixOf group.toList

/-- What follows the mark in the value of a tag. -/
def unmarked (value : String) : String :=
  String.ofList (value.toList.drop groupMark.length)

theorem groupValue_of_isMarked {group : String} (h : isMarked group = true) :
    groupValue group = group :=
  if_pos h

theorem groupValue_of_not_isMarked {group : String} (h : isMarked group = false) :
    groupValue group = groupMark ++ group :=
  if_neg (Bool.eq_false_iff.1 h)

theorem unmarked_append (group : String) : unmarked (groupMark ++ group) = group := by
  rw [unmarked, String.toList_append, ← String.length_toList, List.drop_left, String.ofList_toList]

theorem append_groupMark_ne (group : String) : groupMark ++ group ≠ group := by
  intro h
  have hlength := congrArg String.length h
  rw [String.length_append] at hlength
  have hmark : groupMark.length = 6 := rfl
  omega

/-- Names with one value are one name, or one is the other with the mark in front. -/
theorem groupValue_eq_cases {group group' : String} (h : groupValue group = groupValue group') :
    group = group' ∨ (isMarked group = false ∧ group' = groupMark ++ group) ∨
      (isMarked group' = false ∧ group = groupMark ++ group') := by
  cases hgroup : isMarked group with
  | true =>
    rw [groupValue_of_isMarked hgroup] at h
    cases hgroup' : isMarked group' with
    | true => exact .inl (h.trans (groupValue_of_isMarked hgroup'))
    | false => exact .inr (.inr ⟨rfl, h.trans (groupValue_of_not_isMarked hgroup')⟩)
  | false =>
    rw [groupValue_of_not_isMarked hgroup] at h
    cases hgroup' : isMarked group' with
    | true => exact .inr (.inl ⟨rfl, ((groupValue_of_isMarked hgroup').symm.trans h.symm)⟩)
    | false =>
      rw [groupValue_of_not_isMarked hgroup'] at h
      -- Both have got the mark, and it comes off both.
      have hunmarked := congrArg unmarked h
      rw [unmarked_append, unmarked_append] at hunmarked
      exact .inl hunmarked

/-! ### Conditions that have a tag -/

/-- The kind of tag that an operator makes. -/
def tagKind : Op → TagKind
  | .inGroup => .identity
  | .is => .user
  | .emailSuffix => .emailSuffix
  | .cidr => .sourceCidr
  | .country => .country
  | .isPrivate => .privateSource
  | .os => .deviceOs
  | .managed => .deviceManaged

theorem tagKind_injective {op op' : Op} (h : tagKind op = tagKind op') : op = op' := by
  cases op <;> cases op' <;> first | rfl | cases h

theorem kind_of_tagOf {op : Op} {value : String} {t : Tag} (h : tagOf op value = .ok t) :
    t.kind = tagKind op := by
  cases op with
  | emailSuffix =>
    rw [tagOf] at h
    split at h
    · cases h
    · obtain rfl := Except.ok.inj h
      rfl
  | _ =>
    obtain rfl := Except.ok.inj h
    rfl

/-- What it takes to have a tag: an operator that belongs to the kind, and a value that it
admits. -/
theorem tag_eq_ok_iff (c : Condition) (t : Tag) :
    tag c = .ok t ↔ c.kind.allows c.op = true ∧ c.op.faultOf? (Text.trim c.value) = none ∧
      tagOf c.op (Text.trim c.value) = .ok t := by
  rw [tag]
  cases c.kind.allows c.op with
  | false => simp
  | true => cases c.op.faultOf? (Text.trim c.value) <;> simp

/-- Conditions with one tag have one operator. -/
theorem op_eq_of_tag_eq {c d : Condition} {t : Tag} (hc : tag c = .ok t) (hd : tag d = .ok t) :
    c.op = d.op :=
  tagKind_injective ((kind_of_tagOf ((tag_eq_ok_iff c t).1 hc).2.2).symm.trans
    (kind_of_tagOf ((tag_eq_ok_iff d t).1 hd).2.2))

/-! ### What a tag asks -/

/-- The question that a tag asks about a request. -/
def Tag.query? (t : Tag) : Option Query :=
  match t.kind with
  | .identity => some (.inGroup (unmarked t.value))
  | .user => some (.hasEmail t.value)
  | .emailSuffix => some (.inDomain t.value)
  | .sourceCidr => (Net.Cidr.parse? t.value).map .fromNetwork
  | .country => some (.fromCountry t.value)
  | .privateSource => some .fromPrivateNetwork
  | .deviceOs => (OperatingSystem.named? t.value).map .runs
  | .deviceManaged => some .isManaged

/-- Whether the source of a request carries a tag, going by what the tag asks. -/
def Tag.holds (facts : Facts) (t : Tag) : Bool :=
  t.query?.any (Query.holds facts)

/-- Whether a condition asks for a group by a name that carries the mark. -/
def asksMarkedGroup (c : Condition) : Bool :=
  c.op == .inGroup && isMarked (Text.trim c.value)

/-- A condition that has a tag and needs a value has one that is not empty. -/
theorem trim_ne_empty {op : Op} {value : String} (h : op.faultOf? (Text.trim value) = none)
    (hop : op = .inGroup ∨ op = .is ∨ op = .emailSuffix) : Text.trim value ≠ "" := by
  intro hempty
  have hblank : Text.isBlankText (Text.trim value) = true := by rw [hempty]; rfl
  rcases hop with rfl | rfl | rfl <;> simp [Op.faultOf?, hblank] at h

/-- **What a tag asks is what its condition asks**, but for groups whose name carries the mark. -/
theorem evaluate_of_tag {c : Condition} {t : Tag} (h : tag c = .ok t)
    (hmarked : asksMarkedGroup c = false) (facts : Facts) :
    c.evaluate facts = .ofBool (t.holds facts) := by
  obtain ⟨kind, field, op, value⟩ := c
  obtain ⟨hallowed, hfault, htag⟩ := (tag_eq_ok_iff _ t).1 h
  change kind.allows op = true at hallowed
  change op.faultOf? (Text.trim value) = none at hfault
  change tagOf op (Text.trim value) = .ok t at htag
  rw [Condition.evaluate, Condition.query]
  simp only [hallowed, Bool.not_true, Bool.false_eq_true, if_false]
  -- Each operator makes its question of the trimmed value, and its tag the same one. A value that
  -- it does not admit has no tag.
  cases op with
  | inGroup =>
    obtain rfl := Except.ok.inj htag
    have hvalue := trim_ne_empty hfault (.inl rfl)
    have hname : isMarked (Text.trim value) = false := by simpa [asksMarkedGroup] using hmarked
    -- The mark that comes off the tag is the one that was put on.
    simp only [hvalue, if_false, Tag.holds, Tag.query?, groupValue_of_not_isMarked hname,
      unmarked_append, Option.any_some]
  | is =>
    obtain rfl := Except.ok.inj htag
    have hvalue := trim_ne_empty hfault (.inr (.inl rfl))
    -- The tag has the address in lower case already.
    simp only [hvalue, if_false, Tag.holds, Tag.query?, Option.any_some, Query.holds,
      Text.sameIgnoringCase, Text.lower_lower]
  | emailSuffix =>
    rw [tagOf] at htag
    split at htag
    case isTrue => cases htag
    case isFalse hdomain =>
      obtain rfl := Except.ok.inj htag
      simp only [hdomain, if_false, Tag.holds, Tag.query?, Option.any_some]
  | cidr =>
    obtain rfl := Except.ok.inj htag
    cases hparse : Net.Cidr.parse? (Text.trim value) with
    | none => simp [Op.faultOf?, hparse] at hfault
    | some net => simp only [Tag.holds, Tag.query?, hparse, Option.map_some, Option.any_some]
  | country =>
    obtain rfl := Except.ok.inj htag
    cases hknown : Country.isKnown (Text.trim value) with
    | false => simp [Op.faultOf?, hknown] at hfault
    | true => simp only [if_true, Tag.holds, Tag.query?, Option.any_some]
  | isPrivate =>
    obtain rfl := Except.ok.inj htag
    rfl
  | os =>
    obtain rfl := Except.ok.inj htag
    cases hnamed : OperatingSystem.named? (Text.trim value) with
    | none => simp [Op.faultOf?, hnamed] at hfault
    | some os => simp only [Tag.holds, Tag.query?, hnamed, Option.map_some, Option.any_some]
  | managed =>
    obtain rfl := Except.ok.inj htag
    rfl

/-- A group is asked for by its name as it stands, with the mark or without. -/
theorem evaluate_of_inGroup {c : Condition} {t : Tag} (h : tag c = .ok t) (hop : c.op = .inGroup)
    (facts : Facts) :
    c.evaluate facts =
      .ofBool (facts.request.user.any fun u => u.groups.contains (Text.trim c.value)) := by
  obtain ⟨hallowed, hfault, -⟩ := (tag_eq_ok_iff c t).1 h
  rw [hop] at hallowed hfault
  have hvalue := trim_ne_empty hfault (.inl rfl)
  simp only [Condition.evaluate, Condition.query, hop, hallowed, hvalue, Bool.not_true,
    Bool.false_eq_true, if_false, Query.holds]

theorem value_of_inGroup {c : Condition} {t : Tag} (h : tag c = .ok t) (hop : c.op = .inGroup) :
    t.value = groupValue (Text.trim c.value) := by
  obtain ⟨-, -, htag⟩ := (tag_eq_ok_iff c t).1 h
  rw [hop, tagOf] at htag
  rw [← Except.ok.inj htag]

/-! ### Twins -/

/-- Whether two conditions ask for groups, the first by a name without the mark, the second by the
same name with the mark in front. -/
def MarkedTwin (c d : Condition) : Prop :=
  c.op = .inGroup ∧ d.op = .inGroup ∧ isMarked (Text.trim c.value) = false ∧
    Text.trim d.value = groupMark ++ Text.trim c.value

instance (c d : Condition) : Decidable (MarkedTwin c d) :=
  inferInstanceAs (Decidable (_ ∧ _ ∧ _ ∧ _))

/-- What is known of a user who belongs to one group. -/
def memberFacts (group : String) : Facts :=
  ⟨{ Request.empty with user := some ⟨"", .ofList [group]⟩ }, none, true⟩

theorem evaluate_memberFacts {c : Condition} {t : Tag} (h : tag c = .ok t)
    (hop : c.op = .inGroup) (group : String) :
    c.evaluate (memberFacts group) = .yes ↔ Text.trim c.value = group := by
  rw [evaluate_of_inGroup h hop, Truth.eq_yes_iff, Truth.assume_ofBool, memberFacts,
    Option.any_some, NameSet.contains_ofList, List.mem_singleton]

/-- The one group of a twin is not the group of the other. -/
theorem evaluate_ne_of_markedTwin {c d : Condition} {t : Tag} (hc : tag c = .ok t)
    (hd : tag d = .ok t) (h : MarkedTwin c d) :
    c.evaluate (memberFacts (Text.trim c.value)) ≠
      d.evaluate (memberFacts (Text.trim c.value)) := by
  obtain ⟨hcop, hdop, -, hvalue⟩ := h
  intro hsame
  rw [(evaluate_memberFacts hc hcop _).2 rfl] at hsame
  have hgroup := (evaluate_memberFacts hd hdop _).1 hsame.symm
  exact append_groupMark_ne _ (hvalue.symm.trans hgroup)

/-- Conditions with one tag that are no twins have one value. -/
theorem evaluate_eq_of_tag_eq {c d : Condition} {t : Tag} (hc : tag c = .ok t)
    (hd : tag d = .ok t) (h : ¬ (MarkedTwin c d ∨ MarkedTwin d c)) (facts : Facts) :
    c.evaluate facts = d.evaluate facts := by
  have hop := op_eq_of_tag_eq hc hd
  by_cases hgroup : c.op = .inGroup
  · -- Groups may be written with the mark, so the values are compared and not what the tag asks.
    have hdgroup : d.op = .inGroup := hop.symm.trans hgroup
    have htags : groupValue (Text.trim c.value) = groupValue (Text.trim d.value) :=
      (value_of_inGroup hc hgroup).symm.trans (value_of_inGroup hd hdgroup)
    rw [evaluate_of_inGroup hc hgroup, evaluate_of_inGroup hd hdgroup]
    rcases groupValue_eq_cases htags with hvalue | ⟨hunmarked, hvalue⟩ | ⟨hunmarked, hvalue⟩
    · rw [hvalue]
    · exact absurd (Or.inl ⟨hgroup, hdgroup, hunmarked, hvalue⟩) h
    · exact absurd (Or.inr ⟨hdgroup, hgroup, hunmarked, hvalue⟩) h
  · have hnot (e : Condition) (he : e.op ≠ .inGroup) : asksMarkedGroup e = false := by
      simp [asksMarkedGroup, he]
    rw [evaluate_of_tag hc (hnot c hgroup),
      evaluate_of_tag hd (hnot d fun hd => hgroup (hop.trans hd))]

/-! ### Readings that agree with evaluation -/

/-- Some reading agrees with evaluation on conditions of which no two are twins: the one that finds
a tag on a source when a condition with that tag is true. -/
theorem exists_reading {S : Set Condition}
    (h : ∀ c ∈ S, ∀ d ∈ S, ∀ t, tag c = .ok t → tag d = .ok t → ¬ MarkedTwin c d) :
    ∃ reads : Facts → Tag → Bool, ∀ facts, ∀ c ∈ S, ∀ t, tag c = .ok t →
      (reads facts t = true ↔ c.evaluate facts = .yes) := by
  classical
  refine ⟨fun facts t => decide (∃ c ∈ S, tag c = .ok t ∧ c.evaluate facts = .yes),
    fun facts c hc t ht => ?_⟩
  rw [decide_eq_true_iff]
  constructor
  · rintro ⟨d, hd, htag, hyes⟩
    -- The reading may rest on another condition with the tag, which has the same value.
    rw [← hyes]
    refine evaluate_eq_of_tag_eq ht htag ?_ facts
    rintro (htwin | htwin)
    · exact h c hc d hd t ht htag htwin
    · exact h d hd c hc t htag ht htwin
  · exact fun hyes => ⟨c, hc, ht, hyes⟩

/-- **Which conditions a tag keeps apart.** Among some conditions, two with one tag have one value,
whatever the facts, exactly when they are no twins; and a reading of tags that agrees with
evaluation on all of them exists exactly when no two that have tags are twins. -/
theorem evaluate_eq_iff_of_tag_eq (S : Set Condition) :
    (∀ c ∈ S, ∀ d ∈ S, ∀ t, tag c = .ok t → tag d = .ok t →
        ((∀ facts, c.evaluate facts = d.evaluate facts) ↔
          ¬ (MarkedTwin c d ∨ MarkedTwin d c))) ∧
      ((∃ reads : Facts → Tag → Bool, ∀ facts, ∀ c ∈ S, ∀ t, tag c = .ok t →
          (reads facts t = true ↔ c.evaluate facts = .yes)) ↔
        ∀ c ∈ S, ∀ d ∈ S, ∀ t, tag c = .ok t → tag d = .ok t → ¬ MarkedTwin c d) := by
  constructor
  · intro c _ d _ t hc hd
    constructor
    · rintro hsame (htwin | htwin)
      · exact evaluate_ne_of_markedTwin hc hd htwin (hsame _)
      · exact evaluate_ne_of_markedTwin hd hc htwin (hsame _).symm
    · exact evaluate_eq_of_tag_eq hc hd
  · refine ⟨?_, exists_reading⟩
    rintro ⟨reads, hreads⟩ c hc d hd t htc htd htwin
    -- A member of the first group carries the tag, and does not belong to the second.
    have hyes := (evaluate_memberFacts htc htwin.1 _).2 rfl
    have hcarried := (hreads _ c hc t htc).2 hyes
    exact evaluate_ne_of_markedTwin htc htd htwin
      (hyes.trans ((hreads _ d hd t htd).1 hcarried).symm)

/-- Conditions in several spellings, and a group whose name carries the mark. -/
def spellings : List Condition := [
  .ofOp .is " Ada@Example.com",
  .ofOp .is "ada@example.COM ",
  .ofOp .emailSuffix "@@Example.com",
  .ofOp .inGroup "group:ops"]

/-- Two spellings of an address have one tag and one value, and some reading agrees with evaluation
on them and on the group. -/
theorem evaluate_eq_iff_of_tag_eq_spellings :
    tag (.ofOp .is " Ada@Example.com") = .ok ⟨.user, "ada@example.com"⟩ ∧
      tag (.ofOp .is "ada@example.COM ") = .ok ⟨.user, "ada@example.com"⟩ ∧
      (∀ facts, (Condition.ofOp .is " Ada@Example.com").evaluate facts =
        (Condition.ofOp .is "ada@example.COM ").evaluate facts) ∧
      ∃ reads : Facts → Tag → Bool, ∀ facts, ∀ c ∈ spellings, ∀ t, tag c = .ok t →
        (reads facts t = true ↔ c.evaluate facts = .yes) := by
  obtain ⟨hpairs, hreading⟩ := evaluate_eq_iff_of_tag_eq {c | c ∈ spellings}
  have hfirst : tag (.ofOp .is " Ada@Example.com") = .ok ⟨.user, "ada@example.com"⟩ := by
    decide +kernel
  have hsecond : tag (.ofOp .is "ada@example.COM ") = .ok ⟨.user, "ada@example.com"⟩ := by
    decide +kernel
  have hmem : Condition.ofOp .is " Ada@Example.com" ∈ spellings ∧
      Condition.ofOp .is "ada@example.COM " ∈ spellings := by decide +kernel
  have hnone : ∀ c ∈ spellings, ∀ d ∈ spellings, ¬ MarkedTwin c d := by decide +kernel
  have hsame := hpairs _ hmem.1 _ hmem.2 _ hfirst hsecond
  exact ⟨hfirst, hsecond, hsame.2 (not_or.2 ⟨hnone _ hmem.1 _ hmem.2, hnone _ hmem.2 _ hmem.1⟩),
    hreading.2 fun c hc d hd _ _ _ => hnone c hc d hd⟩

/-- **A group and its twin have one tag**, and an engineer belongs to the one and not to the other,
so no reading agrees with evaluation on both. -/
theorem evaluate_ne_of_marked_group :
    tag (.ofOp .inGroup "eng") = .ok ⟨.identity, "group:eng"⟩ ∧
      tag (.ofOp .inGroup "group:eng") = .ok ⟨.identity, "group:eng"⟩ ∧
      (Condition.ofOp .inGroup "eng").evaluate engineerFacts = .yes ∧
      (Condition.ofOp .inGroup "group:eng").evaluate engineerFacts = .no ∧
      ¬ ∃ reads, Agrees reads engineerFacts [.ofOp .inGroup "eng", .ofOp .inGroup "group:eng"] := by
  have hfirst : tag (.ofOp .inGroup "eng") = .ok ⟨.identity, "group:eng"⟩ := by decide +kernel
  have hsecond : tag (.ofOp .inGroup "group:eng") = .ok ⟨.identity, "group:eng"⟩ := by
    decide +kernel
  have hyes : (Condition.ofOp .inGroup "eng").evaluate engineerFacts = .yes := by decide +kernel
  have hno : (Condition.ofOp .inGroup "group:eng").evaluate engineerFacts = .no := by
    decide +kernel
  refine ⟨hfirst, hsecond, hyes, hno, ?_⟩
  rintro ⟨reads, hagrees⟩
  -- The one tag would have to be on the engineer and off.
  have hcarried := (hagrees _ List.mem_cons_self _ hfirst).2 hyes
  have htwin := (hagrees _ (List.mem_cons_of_mem _ List.mem_cons_self) _ hsecond).1 hcarried
  rw [hno] at htwin
  cases htwin

end ZeroTrust.Gateway
