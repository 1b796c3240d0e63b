/-
  `Pattern.Basic` — regular expressions as values.

  A value keeps what decides whether a pattern can be used: how its parts lie in one
  another, and what each of them asks of the texts it is compared with. Which of the
  shorthands and of the named classes is meant, or how often a part is repeated, is
  not kept.
-/
namespace ZeroTrust

namespace Pattern

/-! ### Modes -/

/-- What some flags switch on or off, by their letters. -/
abbrev Flags := List (Char × Bool)

/-- In which way a part of a pattern is compared with a text. -/
structure Mode where
  /-- Whether letters of either case are the same. -/
  foldsCase : Bool
  /-- Whether a text is taken as characters and not as bytes. -/
  unicode : Bool
  deriving DecidableEq, Repr

namespace Mode

/-- The mode in which a pattern starts. -/
def initial : Mode := ⟨false, true⟩

/-- The mode after some flags. -/
def update (mode : Mode) (flags : Flags) : Mode where
  foldsCase := (flags.lookup 'i').getD mode.foldsCase
  unicode := (flags.lookup 'u').getD mode.unicode

@[simp] theorem update_nil (mode : Mode) : mode.update [] = mode := rfl

end Mode

/-! ### Patterns -/

/-- A character that stands for itself. -/
structure Literal where
  char : Char
  /-- Whether it is written by two hexadecimal digits and so may name a byte. -/
  isByte : Bool
  deriving DecidableEq, Repr

/-- A set of characters between brackets. -/
inductive ClassSet where
  | literal (l : Literal)
  | range (first last : Literal)
  /-- A class of ASCII characters with a name, or all other characters. -/
  | named (negated : Bool)
  /-- The digits, the blanks or the characters of words, or all other characters. -/
  | shorthand (negated : Bool)
  | bracketed (negated : Bool) (set : ClassSet)
  | union (items : List ClassSet)
  /-- What two sets have in common, or one of their differences. -/
  | combined (left right : ClassSet)

end Pattern

open Pattern in
/-- A regular expression. -/
inductive Pattern where
  | literal (l : Literal)
  | anyChar
  /-- The start or the end of a line or of the text. -/
  | anchor
  /-- A place where a word starts or ends, or where none does. -/
  | wordEdge
  | shorthand (negated : Bool)
  | bracketed (negated : Bool) (set : ClassSet)
  /-- A change of mode up to the end of the group. -/
  | switch (flags : Flags)
  | repeated (p : Pattern)
  | group (flags : Flags) (p : Pattern)
  | concat (ps : List Pattern)
  | alternation (ps : List Pattern)

/-! ### Height -/

namespace Pattern

mutual

/-- How many brackets, lists and combinations lie in one another at most. -/
def ClassSet.height : ClassSet → Nat
  | .bracketed _ set => set.height + 1
  | .union items => heightOfSets items + (if 1 < items.length then 1 else 0)
  | .combined left right => max left.height right.height + 1
  | .literal _ | .range _ _ | .named _ | .shorthand _ => 0

/-- The greatest height among some sets. -/
def heightOfSets : List ClassSet → Nat
  | [] => 0
  | set :: sets => max set.height (heightOfSets sets)

end

mutual

/-- How many groups, repetitions, brackets and lists lie in one another at most. A list of one is
no list. -/
def height : Pattern → Nat
  | bracketed _ set => set.height + 1
  | repeated p => p.height + 1
  | group _ p => p.height + 1
  | concat ps => heightOfList ps + (if 1 < ps.length then 1 else 0)
  | alternation ps => heightOfList ps + (if 1 < ps.length then 1 else 0)
  | literal _ | anyChar | anchor | wordEdge | shorthand _ | switch _ => 0

/-- The greatest height among some patterns. -/
def heightOfList : List Pattern → Nat
  | [] => 0
  | p :: ps => max p.height (heightOfList ps)

end

end Pattern

end ZeroTrust
