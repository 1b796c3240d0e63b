/-
  `Pattern.Support` — which patterns can be used.

  Patterns are compared with texts byte by byte and without tables of Unicode. In the
  mode for characters there is therefore no comparison that folds case, no shorthand
  for digits, blanks and words, and no edge of a word. In the mode for bytes, a
  pattern must not match a part of a character: there is no negated class, no byte
  outside ASCII, and no part that stands for any byte.
-/
import ZeroTrust.Pattern.Parser

namespace ZeroTrust.Pattern

/-! ### Sets -/

/-- Whether a character can be an item of a set. -/
def Literal.fitsSet (mode : Mode) (l : Literal) : Bool :=
  if mode.unicode then !mode.foldsCase else l.char.toNat < 0x80

mutual

/-- Whether a set can be used in a mode. -/
def ClassSet.isSupported (mode : Mode) : ClassSet → Bool
  | .literal l => l.fitsSet mode
  | .range first last => first.fitsSet mode && last.fitsSet mode
  | .named negated => if mode.unicode then !mode.foldsCase else !negated
  | .shorthand negated => !mode.unicode && !negated
  | .bracketed negated set => (mode.unicode || !negated) && set.isSupported mode
  | .union items => areSupported mode items
  | .combined left right => left.isSupported mode && right.isSupported mode

/-- Whether all of some sets can be used in a mode. -/
def areSupported (mode : Mode) : List ClassSet → Bool
  | [] => true
  | set :: sets => set.isSupported mode && areSupported mode sets

end

/-! ### Patterns -/

/-- Whether a character can stand for itself. -/
def Literal.isSupported (mode : Mode) (l : Literal) : Bool :=
  if mode.unicode then !mode.foldsCase else !l.isByte || l.char.toNat < 0x80

/-- A mode, on a condition. -/
def Mode.onlyIf (mode : Mode) (condition : Bool) : Option Mode :=
  if condition then some mode else none

mutual

/-- The mode after a pattern that starts in a mode, if the pattern can be used. Flags hold up to
the end of the group, in later branches, too. -/
def modeAfter? (mode : Mode) : Pattern → Option Mode
  | literal l => mode.onlyIf (l.isSupported mode)
  | anyChar => mode.onlyIf mode.unicode
  | anchor => some mode
  | wordEdge => mode.onlyIf !mode.unicode
  | shorthand negated => mode.onlyIf (!mode.unicode && !negated)
  | bracketed negated set => mode.onlyIf ((ClassSet.bracketed negated set).isSupported mode)
  | switch flags => some (mode.update flags)
  | repeated p => modeAfter? mode p
  | group flags p => (modeAfter? (mode.update flags) p).map fun _ => mode
  | concat ps => modeAfterList? mode ps
  | alternation ps => modeAfterList? mode ps

/-- The mode after some patterns one after another, if they can be used. -/
def modeAfterList? (mode : Mode) : List Pattern → Option Mode
  | [] => some mode
  | p :: ps =>
    match modeAfter? mode p with
    | some mode => modeAfterList? mode ps
    | none => none

end

/-- The greatest height of a pattern that can be used. -/
def heightLimit : Nat := 250

/-- Whether some characters write a pattern that can be used. -/
def isUsable (cs : List Char) : Bool :=
  match parse? cs with
  | some p => p.height ≤ heightLimit && (modeAfter? .initial p).isSome
  | none => false

end ZeroTrust.Pattern
