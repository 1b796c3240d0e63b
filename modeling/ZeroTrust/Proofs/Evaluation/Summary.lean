/-
  `Proofs.Evaluation.Summary` — the summary of a tree tells what the tree means.

  Different trees may have one summary: a branch with one child is shown as the child, the
  field of a condition is not shown, and neither is a value that its operator does not take.
  None of these counts when a tree is evaluated. Nothing else is lost, as long as the values
  that are shown are words, free of blanks and parentheses (`Condition.Plain`).

  A word is known in a longer text by the blank or the parenthesis after it
  (`word_append_inj`). So a condition is known by its text up to what it asks
  (`Condition.text_append_inj`), and a tree by its text inside another tree up to what it
  means (`Tree.determined`, by induction): the text shows in its first letter whether it is
  that of a condition, an empty branch or a group (`Tree.exists_itemText_eq_cons`), and a group
  ends with the parenthesis that closes it (`Tree.joined_append_inj`). The whole summary is
  the text of a group without its parentheses (`Tree.exists_joined`), which gives
  `Tree.evaluate_eq_of_toString_eq`.
-/
import ZeroTrust.Proofs.Evaluation.Boolean

namespace ZeroTrust

/-! ### Words -/

/-- Whether a text is a word: it has no blanks and no parentheses. -/
def IsWord (w : List Char) : Prop :=
  ∀ ch ∈ w, ch ≠ ' ' ∧ ch ≠ '(' ∧ ch ≠ ')'

instance (w : List Char) : Decidable (IsWord w) :=
  List.decidableBAll _ w

/-- Whether a text can follow a word: it is at its end, or goes on with a blank or a closing
parenthesis. -/
def EndsWord (r : List Char) : Prop :=
  ∀ ch ∈ r.head?, ch = ' ' ∨ ch = ')'

theorem endsWord_blank (r : List Char) : EndsWord (' ' :: r) := by
  rintro ch ⟨⟩
  exact .inl rfl

theorem not_endsWord_cons {ch : Char} {w r : List Char} (hw : IsWord (ch :: w)) :
    ¬ EndsWord (ch :: w ++ r) := by
  intro h
  obtain ⟨hblank, -, hclosing⟩ := hw ch List.mem_cons_self
  exact (h ch rfl).elim hblank hclosing

/-- **A word is known by what follows it.** -/
theorem word_append_inj {v w r r' : List Char} (hv : IsWord v) (hw : IsWord w) (hr : EndsWord r)
    (hr' : EndsWord r') (h : v ++ r = w ++ r') : v = w ∧ r = r' := by
  induction v generalizing w with
  | nil =>
    cases w with
    | nil => exact ⟨rfl, h⟩
    | cons ch w =>
      obtain rfl : r = ch :: w ++ r' := h
      -- One word is over where the other goes on.
      exact absurd hr (not_endsWord_cons hw)
  | cons ch v ih =>
    cases w with
    | nil =>
      obtain rfl : ch :: v ++ r = r' := h
      exact absurd hr' (not_endsWord_cons hv)
    | cons ch' w =>
      obtain ⟨rfl, hrest⟩ := List.cons.inj h
      obtain ⟨rfl, rfl⟩ := ih (fun c hc => hv c (List.mem_cons_of_mem _ hc))
        (fun c hc => hw c (List.mem_cons_of_mem _ hc)) hrest
      exact ⟨rfl, rfl⟩

/-- The word with which the text of a condition begins. -/
def Kind.label (k : Kind) : List Char :=
  k.name.toList ++ [':']

theorem Kind.isWord_label (k : Kind) : IsWord k.label := by
  cases k <;> decide

theorem Kind.label_injective {k l : Kind} (h : k.label = l.label) : k = l :=
  name_injective (String.toList_inj.1 (List.append_cancel_right h))

theorem Op.isWord_name (o : Op) : IsWord o.name.toList := by
  cases o <;> decide

/-! ### Conditions -/

namespace Condition

/-- Whether the value of a condition is a word, if its operator takes one. -/
def Plain (c : Condition) : Prop :=
  c.op.takesValue = true → IsWord c.value.toList

instance (c : Condition) : Decidable c.Plain :=
  inferInstanceAs (Decidable (_ → _))

/-- What the text of a condition has after the operator. -/
def operand (c : Condition) : List Char :=
  if c.op.takesValue then ' ' :: c.value.toList else []

theorem toList_toString_append (c : Condition) (r : List Char) :
    (toString c).toList ++ r =
      c.kind.label ++ ' ' :: (c.op.name.toList ++ (c.operand ++ r)) := by
  rw [operand, Kind.label]
  simp only [toString]
  split <;> simp [String.toList_append]

theorem endsWord_operand_append (c : Condition) {r : List Char} (hr : EndsWord r) :
    EndsWord (c.operand ++ r) := by
  rw [operand]
  split
  case isTrue => exact endsWord_blank _
  case isFalse => exact hr

/-- What a condition asks goes by its kind, its operator, and the value if it takes one. -/
theorem query_congr {c d : Condition} (hkind : c.kind = d.kind) (hop : c.op = d.op)
    (hvalue : c.op.takesValue = true → c.value = d.value) : c.query = d.query := by
  obtain ⟨kind, field, op, value⟩ := c
  obtain ⟨kind', field', op', value'⟩ := d
  obtain rfl : kind = kind' := hkind
  obtain rfl : op = op' := hop
  cases htakes : op.takesValue with
  | true =>
    obtain rfl : value = value' := hvalue htakes
    simp only [query]
  | false => cases op <;> cases htakes <;> simp only [query]

/-- **A condition is known by its text** up to what it asks, also in a longer text. -/
theorem text_append_inj {c d : Condition} {r r' : List Char} (hc : c.Plain) (hd : d.Plain)
    (hr : EndsWord r) (hr' : EndsWord r')
    (h : (toString c).toList ++ r = (toString d).toList ++ r') : c.query = d.query ∧ r = r' := by
  rw [toList_toString_append, toList_toString_append] at h
  -- The kind and the operator are words, and each is followed by a blank or by the end.
  obtain ⟨hkind, hrest⟩ := word_append_inj c.kind.isWord_label d.kind.isWord_label
    (endsWord_blank _) (endsWord_blank _) h
  obtain ⟨hop, hrest⟩ := word_append_inj c.op.isWord_name d.op.isWord_name
    (c.endsWord_operand_append hr) (d.endsWord_operand_append hr') (List.cons.inj hrest).2
  have hkind : c.kind = d.kind := Kind.label_injective hkind
  have hop : c.op = d.op := Op.name_injective (String.toList_inj.1 hop)
  -- Whether a value is shown goes by the operator.
  cases htakes : c.op.takesValue with
  | false =>
    rw [operand, operand, ← hop, htakes] at hrest
    exact ⟨query_congr hkind hop fun h => by simp [htakes] at h, hrest⟩
  | true =>
    rw [operand, operand, ← hop, htakes] at hrest
    obtain ⟨hvalue, hrest⟩ := word_append_inj (hc htakes) (hd (hop ▸ htakes)) hr hr'
      (List.cons.inj hrest).2
    exact ⟨query_congr hkind hop fun _ => String.toList_inj.1 hvalue, hrest⟩

end Condition

namespace Tree

/-! ### Meaning -/

/-- Whether two trees have the same value for all facts. -/
def Equivalent (s t : Tree) : Prop :=
  ∀ facts, s.evaluate facts = t.evaluate facts

theorem equivalent_leaf {c d : Condition} (h : c.query = d.query) :
    Equivalent (leaf c) (leaf d) := by
  intro facts
  rw [evaluate, evaluate, Condition.evaluate, Condition.evaluate, h]

/-- A branch with one child means what the child means. -/
theorem equivalent_singleton (o : Connective) (t : Tree) : Equivalent (branch o [t]) t := by
  intro facts
  cases o with
  | and =>
    rw [evaluate, evaluateAll, evaluateAll]
    cases t.evaluate facts <;> rfl
  | or =>
    rw [evaluate, evaluateAny, evaluateAny]
    cases t.evaluate facts <;> rfl

/-- The value of a branch goes by those of its children; with one child the connective does not
count. -/
theorem equivalent_branch {o p : Connective} {ss ts : List Tree}
    (h : List.Forall₂ Equivalent ss ts) (hne : ss ≠ []) (hop : 1 < ss.length → o = p) :
    Equivalent (branch o ss) (branch p ts) := by
  intro facts
  have hvalues : List.Forall₂ (· = ·) (ss.map (evaluate facts)) (ts.map (evaluate facts)) :=
    List.forall₂_map_left_iff.2 (List.forall₂_map_right_iff.2 (h.imp fun _ _ hst => hst facts))
  rw [List.forall₂_eq_eq_eq] at hvalues
  match ss, ts, h with
  -- A single child gives its value to the branch under either connective.
  | [s], [t], .cons hst .nil =>
    calc (branch o [s]).evaluate facts
      _ = s.evaluate facts := equivalent_singleton o s facts
      _ = t.evaluate facts := hst facts
      _ = (branch p [t]).evaluate facts := (equivalent_singleton p t facts).symm
  | _ :: _ :: _, _, _ =>
    obtain rfl := hop (by simp)
    exact evaluate_branch_congr rfl hvalues

/-! ### Texts inside texts -/

/-- The text of a tree inside another. -/
def itemText (t : Tree) : List Char :=
  if t.isGroup then '(' :: (t.summary.toList ++ [')']) else t.summary.toList

/-- A connective with a blank on either side. -/
def between (o : Connective) : List Char :=
  ' ' :: (o.name.toList ++ [' '])

/-- The texts of some trees with a connective between them. -/
def joined (o : Connective) (ts : List Tree) : List Char :=
  (between o).intercalate (ts.map itemText)

theorem joined_singleton (o : Connective) (t : Tree) : joined o [t] = itemText t := by
  simp [joined]

theorem joined_cons_cons_append (o : Connective) (t u : Tree) (ts : List Tree) (r : List Char) :
    joined o (t :: u :: ts) ++ r = itemText t ++ (between o ++ (joined o (u :: ts) ++ r)) := by
  simp [joined, List.intercalate_cons_cons]

theorem map_toList_summaryParts (ts : List Tree) :
    (summaryParts ts).map String.toList = ts.map itemText := by
  induction ts with
  | nil => rfl
  | cons t ts ih =>
    rw [summaryParts, List.map_cons, List.map_cons, ih, itemText]
    split <;> simp [toString, String.toList_append]

/-- The summary of a branch shows its children side by side. -/
theorem toList_summary_branch (o : Connective) (t : Tree) (ts : List Tree) :
    (branch o (t :: ts)).summary.toList = joined o (t :: ts) := by
  have hsummary : (branch o (t :: ts)).summary =
      s!" {o} ".intercalate (summaryParts (t :: ts)) := by
    cases o <;> rw [summary]
  have hbetween : s!" {o} ".toList = between o := by
    simp [between, toString, String.toList_append]
  rw [hsummary, String.toList_intercalate, map_toList_summaryParts, hbetween, joined]

/-! ### Branches around one child -/

/-- Whether a tree is not a branch around one child. -/
def Bare : Tree → Prop
  | branch _ [_] => False
  | _ => True

theorem itemText_singleton (o : Connective) (t : Tree) : itemText (branch o [t]) = itemText t := by
  rw [itemText, if_neg (by simp [isGroup]), toList_summary_branch, joined_singleton]

/-- Branches around one child can be taken off: neither the text nor the meaning tells. -/
theorem exists_bare (t : Tree) :
    ∃ u, Bare u ∧ itemText u = itemText t ∧ Equivalent u t ∧ u.conditions = t.conditions := by
  induction t using Tree.induction with
  | leaf c => exact ⟨leaf c, trivial, rfl, fun _ => rfl, rfl⟩
  | branch o cs ih =>
    match cs, ih with
    | [], _ => exact ⟨branch o [], trivial, rfl, fun _ => rfl, rfl⟩
    | [t], ih =>
      obtain ⟨u, hbare, htext, hmeaning, hconditions⟩ := ih t List.mem_cons_self
      refine ⟨u, hbare, by rw [itemText_singleton, htext], fun facts => ?_, by simp [hconditions]⟩
      rw [hmeaning facts, equivalent_singleton o t facts]
    | t :: t' :: ts, _ => exact ⟨branch o (t :: t' :: ts), trivial, rfl, fun _ => rfl, rfl⟩

/-- The letter with which the text of a bare tree begins inside another tree. -/
def opening : Tree → Char
  | leaf c =>
    match c.kind with
    | .user => 'U'
    | .network => 'N'
    | .device => 'D'
  | branch .and [] => 'a'
  | branch .or [] => 'O'
  | branch _ (_ :: _) => '('

theorem itemText_leaf (c : Condition) : itemText (leaf c) = (toString c).toList := by
  rw [itemText, if_neg (by simp [isGroup]), summary]

theorem itemText_group (o : Connective) (t u : Tree) (ts : List Tree) :
    itemText (branch o (t :: u :: ts)) = '(' :: (joined o (t :: u :: ts) ++ [')']) := by
  rw [itemText, if_pos (show isGroup _ = true from rfl), toList_summary_branch]

theorem exists_itemText_eq_cons {t : Tree} (h : Bare t) : ∃ r, itemText t = opening t :: r := by
  match t, h with
  | leaf c, _ =>
    rw [itemText_leaf, ← List.append_nil (toString c).toList, c.toList_toString_append, opening]
    cases c.kind <;> exact ⟨_, rfl⟩
  | branch .and [], _ => exact ⟨_, rfl⟩
  | branch .or [], _ => exact ⟨_, rfl⟩
  | branch o (t :: u :: ts), _ =>
    rw [itemText_group]
    cases o <;> exact ⟨_, rfl⟩

/-! ### Side by side -/

/-- Whether the values of a tree are words, where they count. -/
def Plain (t : Tree) : Prop :=
  ∀ c ∈ t.conditions, c.Plain

theorem Plain.child {o : Connective} {ts : List Tree} (h : Plain (branch o ts)) {t : Tree}
    (ht : t ∈ ts) : Plain t :=
  fun c hc => h c (conditions_subset_branch ht hc)

/-- Whether a tree is known by its text, up to what it means, also in a longer text. -/
def Determined (s : Tree) : Prop :=
  ∀ (t : Tree) (r r' : List Char), Plain t → EndsWord r → EndsWord r' →
    itemText s ++ r = itemText t ++ r' → Equivalent s t ∧ r = r'

/-- Whether a text can follow the children of a branch: it is at its end, or goes on with a closing
parenthesis. -/
def Closes (r : List Char) : Prop :=
  ∀ ch ∈ r.head?, ch = ')'

theorem Closes.endsWord {r : List Char} (h : Closes r) : EndsWord r :=
  fun ch hch => .inr (h ch hch)

theorem closes_nil : Closes [] := by
  rintro ch ⟨⟩

theorem closes_cons (r : List Char) : Closes (')' :: r) := by
  rintro ch ⟨⟩
  rfl

theorem not_closes_between (o : Connective) (r : List Char) : ¬ Closes (between o ++ r) := by
  intro h
  exact absurd (h ' ' rfl) (by decide)

theorem between_append_inj {o p : Connective} {r r' : List Char}
    (h : between o ++ r = between p ++ r') : o = p ∧ r = r' := by
  cases o <;> cases p <;> simp_all [between, Connective.name]

/-- **Children are known by their texts side by side**, and so is the connective between them. -/
theorem joined_append_inj {o p : Connective} {ss ts : List Tree} {r r' : List Char}
    (hss : ∀ s ∈ ss, Determined s) (hts : ∀ t ∈ ts, Plain t) (hs : ss ≠ []) (ht : ts ≠ [])
    (hr : Closes r) (hr' : Closes r') (h : joined o ss ++ r = joined p ts ++ r') :
    List.Forall₂ Equivalent ss ts ∧ (1 < ss.length → o = p) ∧ r = r' := by
  induction ss generalizing ts with
  | nil => exact absurd rfl hs
  | cons s ss ih =>
    obtain ⟨t, ts, rfl⟩ := List.exists_cons_of_ne_nil ht
    have hdetermined : Determined s := hss s List.mem_cons_self
    have hplain : Plain t := hts t List.mem_cons_self
    match ss, ts with
    | [], [] =>
      rw [joined_singleton, joined_singleton] at h
      obtain ⟨hst, hrest⟩ := hdetermined t r r' hplain hr.endsWord hr'.endsWord h
      exact ⟨.cons hst .nil, fun hlt => absurd hlt (by simp), hrest⟩
    | [], u :: ts =>
      -- The first text ends where the second one goes on with a connective.
      rw [joined_singleton, joined_cons_cons_append] at h
      obtain ⟨-, rfl⟩ := hdetermined t _ _ hplain hr.endsWord (endsWord_blank _) h
      exact absurd hr (not_closes_between p _)
    | u :: ss, [] =>
      rw [joined_singleton, joined_cons_cons_append] at h
      obtain ⟨-, rfl⟩ := hdetermined t _ _ hplain (endsWord_blank _) hr'.endsWord h
      exact absurd hr' (not_closes_between o _)
    | u :: ss, v :: ts =>
      rw [joined_cons_cons_append, joined_cons_cons_append] at h
      obtain ⟨hst, hrest⟩ := hdetermined t _ _ hplain (endsWord_blank _) (endsWord_blank _) h
      -- Both go on with a connective, and with one child less behind it.
      obtain ⟨rfl, hrest⟩ := between_append_inj hrest
      obtain ⟨hrests, -, hends⟩ := ih (fun s h => hss s (List.mem_cons_of_mem _ h))
        (fun t h => hts t (List.mem_cons_of_mem _ h)) (List.cons_ne_nil _ _)
        (List.cons_ne_nil _ _) hrest
      exact ⟨.cons hst hrests, fun _ => rfl, hends⟩

/-! ### Trees, by their texts -/

/-- It is enough to compare with bare trees, as every tree has a bare one of the same text. -/
theorem determined_of_bare {s : Tree}
    (h : ∀ (t : Tree) (r r' : List Char), Bare t → Plain t → EndsWord r → EndsWord r' →
      itemText s ++ r = itemText t ++ r' → Equivalent s t ∧ r = r') : Determined s := by
  intro t r r' ht hr hr' htexts
  obtain ⟨u, hbare, htext, hmeaning, hconditions⟩ := exists_bare t
  have hu : Plain u := by rwa [Plain, hconditions]
  obtain ⟨hsu, hrest⟩ := h u r r' hbare hu hr hr' (by rwa [htext])
  exact ⟨fun facts => (hsu facts).trans (hmeaning facts), hrest⟩

theorem opening_eq_of_itemText_append_eq {s t : Tree} {r r' : List Char} (hs : Bare s) (ht : Bare t)
    (h : itemText s ++ r = itemText t ++ r') : opening s = opening t := by
  obtain ⟨v, hv⟩ := exists_itemText_eq_cons hs
  obtain ⟨w, hw⟩ := exists_itemText_eq_cons ht
  rw [hv, hw] at h
  exact (List.cons.inj h).1

theorem opening_leaf_ne (c : Condition) (o : Connective) (ts : List Tree) :
    opening (leaf c) ≠ opening (branch o ts) := by
  obtain ⟨kind, field, op, value⟩ := c
  cases kind <;> cases o <;> cases ts <;> simp [opening]

theorem opening_empty_ne (o p : Connective) (t : Tree) (ts : List Tree) :
    opening (branch o []) ≠ opening (branch p (t :: ts)) := by
  cases o <;> cases p <;> simp [opening]

theorem opening_empty_inj {o p : Connective} (h : opening (branch o []) = opening (branch p [])) :
    o = p := by
  cases o <;> cases p <;> simp_all [opening]

theorem determined_leaf {c : Condition} (hc : c.Plain) : Determined (leaf c) := by
  refine determined_of_bare fun t r r' hbare ht hr hr' h => ?_
  match t with
  | leaf d =>
    rw [itemText_leaf, itemText_leaf] at h
    obtain ⟨hquery, hrest⟩ := Condition.text_append_inj hc (ht d (by simp)) hr hr' h
    exact ⟨equivalent_leaf hquery, hrest⟩
  | branch p ds =>
    exact absurd (opening_eq_of_itemText_append_eq (s := leaf c) trivial hbare h)
      (opening_leaf_ne c p ds)

theorem determined_empty (o : Connective) : Determined (branch o []) := by
  refine determined_of_bare fun t r r' hbare ht hr hr' h => ?_
  have hopening := opening_eq_of_itemText_append_eq (s := branch o []) trivial hbare h
  match t with
  | leaf d => exact absurd hopening.symm (opening_leaf_ne d o [])
  | branch p [] =>
    obtain rfl := opening_empty_inj hopening
    exact ⟨fun _ => rfl, List.append_cancel_left h⟩
  | branch p (t :: ts) => exact absurd hopening (opening_empty_ne o p t ts)

/-- A branch around one child has the text of the child, and its meaning. -/
theorem determined_singleton (o : Connective) {c : Tree} (hc : Determined c) :
    Determined (branch o [c]) := by
  intro t r r' ht hr hr' h
  rw [itemText_singleton] at h
  obtain ⟨hct, hrest⟩ := hc t r r' ht hr hr' h
  exact ⟨fun facts => (equivalent_singleton o c facts).trans (hct facts), hrest⟩

/-- A group is known as its children are, whose texts end at its closing parenthesis. -/
theorem determined_group (o : Connective) {c c' : Tree} {cs : List Tree}
    (hcs : ∀ s ∈ c :: c' :: cs, Determined s) : Determined (branch o (c :: c' :: cs)) := by
  refine determined_of_bare fun t r r' hbare ht hr hr' h => ?_
  have hopening :=
    opening_eq_of_itemText_append_eq (s := branch o (c :: c' :: cs)) trivial hbare h
  -- The parenthesis in front tells a group from every other tree.
  match t, hbare with
  | leaf d, _ => exact absurd hopening.symm (opening_leaf_ne d o _)
  | branch p [], _ => exact absurd hopening.symm (opening_empty_ne p o c _)
  | branch p (d :: d' :: ds), _ =>
    rw [itemText_group, itemText_group, List.cons_append, List.cons_append, List.append_assoc,
      List.append_assoc] at h
    obtain ⟨hchildren, hconnective, hrest⟩ := joined_append_inj hcs (fun t h => ht.child h)
      (List.cons_ne_nil _ _) (List.cons_ne_nil _ _) (closes_cons r) (closes_cons r')
      (List.cons.inj h).2
    exact ⟨equivalent_branch hchildren (List.cons_ne_nil _ _) hconnective,
      (List.cons.inj hrest).2⟩

/-- **A tree is known by its text** up to what it means. -/
theorem determined {s : Tree} : Plain s → Determined s := by
  induction s using Tree.induction with
  | leaf c => exact fun hs => determined_leaf (hs c (by simp))
  | branch o cs ih =>
    intro hs
    have hcs : ∀ t ∈ cs, Determined t := fun t ht => ih t ht (hs.child ht)
    match cs, hcs with
    | [], _ => exact determined_empty o
    | [c], hcs => exact determined_singleton o (hcs c List.mem_cons_self)
    | c :: c' :: cs, hcs => exact determined_group o hcs

/-! ### Summaries -/

/-- The summary of a tree shows the children of a branch side by side, which means the same: those
of the tree if it is a group, and else the tree alone. -/
theorem exists_joined (t : Tree) :
    ∃ o ts, ts ≠ [] ∧ t.summary.toList = joined o ts ∧ Equivalent t (branch o ts) ∧
      (branch o ts).conditions = t.conditions := by
  cases hgroup : t.isGroup with
  | false =>
    refine ⟨.and, [t], List.cons_ne_nil _ _, ?_, fun facts => ?_, by simp⟩
    · rw [joined_singleton, itemText, if_neg (by simp [hgroup])]
    · rw [equivalent_singleton .and t facts]
  | true =>
    match t, hgroup with
    | branch o (t :: u :: ts), _ =>
      exact ⟨o, t :: u :: ts, List.cons_ne_nil _ _, toList_summary_branch o t _, fun _ => rfl, rfl⟩

/-- **The summary tells what a tree means.** Two trees with one summary have the same value for all
facts, and the same fault where it is unknown, if the values that are shown are words. -/
theorem evaluate_eq_of_toString_eq {s t : Tree} (hs : ∀ c ∈ s.conditions, c.Plain)
    (ht : ∀ c ∈ t.conditions, c.Plain) (h : toString s = toString t) (facts : Facts) :
    s.evaluate facts = t.evaluate facts := by
  obtain ⟨o, ss, hss, hstext, hsmeaning, hsconditions⟩ := exists_joined s
  obtain ⟨p, ts, hts, httext, htmeaning, htconditions⟩ := exists_joined t
  have hsplain : Plain (branch o ss) := by rwa [Plain, hsconditions]
  have htplain : Plain (branch p ts) := by rwa [Plain, htconditions]
  -- Nothing stands behind a summary, which closes it as a parenthesis would.
  have htexts : joined o ss ++ [] = joined p ts ++ [] := by
    rw [← hstext, ← httext]
    exact congrArg (·.toList ++ []) h
  obtain ⟨hchildren, hconnective, -⟩ := joined_append_inj
    (fun s hs => determined (hsplain.child hs)) (fun t ht => htplain.child ht) hss hts closes_nil
    closes_nil htexts
  calc s.evaluate facts
    _ = (branch o ss).evaluate facts := hsmeaning facts
    _ = (branch p ts).evaluate facts := equivalent_branch hchildren hss hconnective facts
    _ = t.evaluate facts := (htmeaning facts).symm

/-- A tree in which some things are not shown: a branch around one child, a field that its operator
does not read, and a value that its operator does not take. -/
def wrapped : Tree :=
  .branch .or [
    .branch .or [.leaf (.ofOp .inGroup "eng")],
    .branch .and [.leaf ⟨.device, .group, .managed, "(not shown)"⟩, .branch .or []]]

/-- The tree without them. -/
def unwrapped : Tree :=
  .branch .or [
    .leaf (.ofOp .inGroup "eng"),
    .branch .and [.leaf (.ofOp .managed ""), .branch .or []]]

theorem evaluate_eq_of_toString_eq_wrapped :
    toString wrapped = "User: in_group eng OR (Device: managed AND OR())" ∧
      wrapped ≠ unwrapped ∧ ∀ facts, wrapped.evaluate facts = unwrapped.evaluate facts :=
  ⟨by decide +kernel, by decide +kernel,
    evaluate_eq_of_toString_eq (by decide +kernel) (by decide +kernel) (by decide +kernel)⟩

/-- A value with blanks in it can pass for more than one condition. -/
example : toString (leaf (.ofOp .inGroup "eng AND Device: managed")) =
    toString (branch .and [leaf (.ofOp .inGroup "eng"), leaf (.ofOp .managed "")]) := by
  decide +kernel

end Tree

end ZeroTrust
