/-
  `Log.Filter` — which events are let through.

  A filter is a list of rules, the most specific first. A rule applies to the events
  whose origin has a name that starts in a given way and that have a given field,
  where it asks for either. The first rule that applies to an event decides: it lets
  through events down to a level. An event to which no rule applies is held back.
-/
import ZeroTrust.Log.Event

namespace ZeroTrust

/-! ### Rules -/

/-- How far down the levels events are let through, for some events. -/
structure LogRule where
  /-- How the name of the origin has to start. -/
  origin : Option String
  /-- A field that has to be there. -/
  field : Option String
  /-- The greatest `Level.rank` that is let through; zero lets nothing through. -/
  rank : Nat
  deriving DecidableEq, Repr

namespace LogRule

/-- Whether a rule has a say on an event. -/
def appliesTo (rule : LogRule) (e : Event) : Bool :=
  (rule.origin.all fun start => start.toList.isPrefixOf e.origin.name.toList) &&
    rule.field.all e.hasField

/-- What is asked for, as a text to compare; nothing comes before the empty text. -/
def fieldKey (rule : LogRule) : List Char :=
  match rule.field with
  | some name => 'f' :: name.toList
  | none => []

/-- How much of the name of the origin is asked for; nothing counts less than the empty text. -/
def originSize (rule : LogRule) : Nat :=
  match rule.origin with
  | some start => start.utf8ByteSize + 1
  | none => 0

/-- Whether a rule is at least as specific as another: first it counts how much of the name of the
origin is asked for, then whether a field is, and then which field comes later in order. -/
def outranks (a b : LogRule) : Bool :=
  b.originSize < a.originSize ||
    (a.originSize == b.originSize && !decide (a.fieldKey < b.fieldKey))

end LogRule

/-! ### Filters -/

/-- Which events are let through. -/
structure LogFilter where
  rules : List LogRule
  deriving DecidableEq, Repr

namespace LogFilter

/-- Adds a rule in front of those that are no more specific. -/
def insert (rule : LogRule) : List LogRule → List LogRule
  | [] => [rule]
  | r :: rs => if rule.outranks r then rule :: r :: rs else r :: insert rule rs

/-- The filter with some rules. Of rules that are as specific the last one counts. -/
def ofRules (rules : List LogRule) : LogFilter :=
  ⟨rules.foldl (fun sorted rule => insert rule sorted) []⟩

/-- Lets through events of a level and more important ones. -/
def upTo (level : Level) : LogFilter :=
  ofRules [⟨none, none, level.rank⟩]

/-- Whether an event is let through. -/
def admits (filter : LogFilter) (e : Event) : Bool :=
  (filter.rules.find? fun rule => rule.appliesTo e).any fun rule => e.level.rank ≤ rule.rank

/-! ### Laws -/

@[simp] theorem admits_nil (e : Event) : (⟨[]⟩ : LogFilter).admits e = false := rfl

/-- A filter without conditions looks at the level only. -/
theorem admits_upTo (level : Level) (e : Event) :
    (upTo level).admits e = decide (e.level.rank ≤ level.rank) := rfl

/-- A rule that is put in belongs to the rules. -/
theorem mem_insert {rule r : LogRule} {rules : List LogRule} :
    r ∈ insert rule rules ↔ r = rule ∨ r ∈ rules := by
  induction rules with
  | nil => simp [insert]
  | cons a as ih =>
    by_cases h : rule.outranks a = true
    · simp [insert, h]
    · simp only [insert, h, Bool.false_eq_true, ↓reduceIte, List.mem_cons, ih]
      exact or_left_comm

end LogFilter

end ZeroTrust
