/-
  `Gateway.Expansion` — a tree as alternatives of source tags.

  A condition becomes one tag. A tree becomes a list of terms, each a list of tags
  that hold together; the tree matches when some term does. A disjunction puts the
  terms of its children one after another. A conjunction joins each term of one
  child with each of the next, and a tag that is there already is not repeated.

  A condition that no tag can express is taken for a constant, which the caller
  chooses. The number of terms is bounded: a disjunction that grows past the bound
  after a child, and a conjunction that would, has no expansion.
-/
import ZeroTrust.Condition.Grammar
import ZeroTrust.Gateway.Rule
import ZeroTrust.Tree.Basic

namespace ZeroTrust.Gateway

/-! ### Tags -/

/-- Why no tag expresses a condition. -/
inductive TagFault where
  /-- The operator does not belong to the kind of the condition. -/
  | foreignOp (op : Op) (kind : Kind)
  /-- The operator does not admit the value. -/
  | value (fault : ValueFault)
  /-- Nothing is left of a domain without its signs in front. -/
  | emptyDomain
  deriving DecidableEq, Repr

/-- The words for why no tag expresses a condition. -/
def TagFault.message : TagFault → String
  | foreignOp op kind => s!"operator '{op}' is not valid for condition type '{kind}'"
  | value fault => fault.message
  | emptyDomain => "email_suffix condition has an empty domain"

/-- The mark before the name of a group. -/
def groupMark : String := "group:"

/-- The value of a tag for a group. A name that carries the mark keeps it. -/
def groupValue (group : String) : String :=
  if groupMark.toList.isPrefixOf group.toList then group else groupMark ++ group

/-- The tag for an operator and a value that it admits. -/
def tagOf (op : Op) (value : String) : Except TagFault Tag :=
  match op with
  | .inGroup => .ok ⟨.identity, groupValue value⟩
  | .is => .ok ⟨.user, Text.lower value⟩
  | .emailSuffix =>
    let domain := Text.lower (String.ofList (value.toList.dropWhile (· == '@')))
    if domain = "" then .error .emptyDomain else .ok ⟨.emailSuffix, domain⟩
  | .cidr => .ok ⟨.sourceCidr, value⟩
  | .country => .ok ⟨.country, value⟩
  | .isPrivate => .ok ⟨.privateSource, "true"⟩
  | .os => .ok ⟨.deviceOs, value⟩
  | .managed => .ok ⟨.deviceManaged, "true"⟩

/-- The tag for a condition. Blanks around its value do not count, and neither does its field. -/
def tag (c : Condition) : Except TagFault Tag :=
  if !c.kind.allows c.op then .error (.foreignOp c.op c.kind)
  else
    match c.op.faultOf? (Text.trim c.value) with
    | some fault => .error (.value fault)
    | none => tagOf c.op (Text.trim c.value)

/-! ### Terms -/

/-- Tags that hold together. -/
abbrev Term := List Tag

/-- Both terms together, each tag once, in order of its first occurrence. -/
def conjoin (term : Term) : Term → Term
  | [] => term
  | t :: ts => conjoin (if term.contains t then term else term ++ [t]) ts

/-- Each term of one list with each of another; the first list varies slowest. -/
def product (terms alternatives : List Term) : List Term :=
  terms.flatMap fun term => alternatives.map (conjoin term)

/-- What an expansion depends on beside the tree. -/
structure ExpandOptions where
  /-- What a condition without a tag is taken for. -/
  unknownAs : Bool
  /-- Whether a disjunction without members matches. -/
  vacuousOr : Bool
  maxTerms : Nat
  deriving DecidableEq, Repr

/-- The terms of a constant: one without tags, or none. -/
def constant (b : Bool) : List Term :=
  if b then [[]] else []

/-- The terms of a condition. -/
def conditionTerms (unknownAs : Bool) (c : Condition) : List Term :=
  match tag c with
  | .ok t => [[t]]
  | .error _ => constant unknownAs

mutual

/-- The terms of a tree, unless there are too many. -/
def expand (o : ExpandOptions) : Tree → Option (List Term)
  | .leaf c => some (conditionTerms o.unknownAs c)
  | .branch .and cs => expandAll o [[]] cs
  | .branch .or [] => some (constant o.vacuousOr)
  | .branch .or (c :: cs) => expandAny o [] (c :: cs)

/-- The terms of a conjunction, given those of its children so far. -/
def expandAll (o : ExpandOptions) (terms : List Term) : List Tree → Option (List Term)
  | [] => some terms
  | t :: ts => do
    let alternatives ← expand o t
    -- The number of joined terms is known before they are joined.
    if terms.length * alternatives.length > o.maxTerms then none
    else expandAll o (product terms alternatives) ts

/-- The terms of a disjunction, given those of its children so far. -/
def expandAny (o : ExpandOptions) (terms : List Term) : List Tree → Option (List Term)
  | [] => some terms
  | t :: ts => do
    let alternatives ← expand o t
    if (terms ++ alternatives).length > o.maxTerms then none
    else expandAny o (terms ++ alternatives) ts

end

section Children

variable {o : ExpandOptions} {t : Tree} {ts : List Tree} {sofar terms : List Term}

/-- What it takes to expand the members of a conjunction, one at a time. -/
theorem expandAll_cons_eq_some_iff :
    expandAll o sofar (t :: ts) = some terms ↔
      ∃ others, expand o t = some others ∧ ¬ sofar.length * others.length > o.maxTerms ∧
        expandAll o (product sofar others) ts = some terms := by
  rw [expandAll, Option.bind_eq_bind, Option.bind_eq_some_iff]
  simp only [Option.ite_none_left_eq_some]

/-- What it takes to expand the members of a disjunction, one at a time. -/
theorem expandAny_cons_eq_some_iff :
    expandAny o sofar (t :: ts) = some terms ↔
      ∃ others, expand o t = some others ∧ ¬ (sofar ++ others).length > o.maxTerms ∧
        expandAny o (sofar ++ others) ts = some terms := by
  rw [expandAny, Option.bind_eq_bind, Option.bind_eq_some_iff]
  simp only [Option.ite_none_left_eq_some]

end Children

end ZeroTrust.Gateway
