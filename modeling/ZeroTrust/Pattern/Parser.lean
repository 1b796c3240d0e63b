/-
  `Pattern.Parser` — reading a regular expression.

  A pattern is a list of branches between bars, and a branch is a row of items, each
  of which may be repeated. Groups start with flags or a name, and no two have the
  same name. In brackets, characters, ranges and further brackets are put together,
  and such sets are combined by doubled signs.

  What is read here never holds a brace that closes one opened before. An opening
  brace outside brackets, where it would start a number of repetitions or a name,
  therefore cannot be read. Classes by a property of their characters cannot be read
  either.

  The functions are total by a bound on the number of calls, which `parse?` chooses so
  that it never cuts a pattern short.
-/
import ZeroTrust.Pattern.Basic
import ZeroTrust.Text.Alphanumeric
import ZeroTrust.Text.Blank
import ZeroTrust.Text.Hex

namespace ZeroTrust.Pattern.Parser

/-! ### Blanks and comments -/

/-- What follows blanks and comments; a comment goes from a hash sign to the end of its line. -/
def skipComments (inComment : Bool) : List Char → List Char
  | [] => []
  | c :: cs =>
    if inComment then skipComments (c != '\n') cs
    else if Text.isBlank c then skipComments false cs
    else if c = '#' then skipComments true cs
    else c :: cs

/-- What follows blanks and comments, if they count for nothing. -/
def skip (spaced : Bool) (cs : List Char) : List Char :=
  if spaced then skipComments false cs else cs

/-- The character after a hyphen, which tells whether it makes a range. Where blanks count for
nothing, blanks and one hash sign are passed over, if anything else follows. -/
def afterHyphen (spaced : Bool) (cs : List Char) : Option Char :=
  if !spaced then cs.head?
  else
    let ahead := match cs.dropWhile Text.isBlank with
      | '#' :: more => more.dropWhile Text.isBlank
      | more => more
    ahead.head?.or cs.head?

/-! ### Escapes -/

/-- So many hexadecimal digits, last first behind those in `found`, and what follows. -/
def hexRun (spaced : Bool) (found : List Char) : Nat → List Char → Option (List Char × List Char)
  | 0, cs => some (found, cs)
  | n + 1, cs =>
    match skip spaced cs with
    | c :: rest => if Text.isHexDigit c then hexRun spaced (c :: found) n rest else none
    | [] => none

/-- The character that so many hexadecimal digits name, and what follows. -/
def hexChar (spaced : Bool) (count : Nat) (cs : List Char) : Option (Pattern × List Char) := do
  let (digits, rest) ← hexRun spaced [] count cs
  let n := Text.ofHex digits.reverse
  if n < 0xD800 ∨ (0xE000 ≤ n ∧ n < 0x110000) then
    some (.literal ⟨Char.ofNat n, count == 2⟩, rest)
  else none

/-- What a backslash and the characters after it stand for, and what follows. A letter or digit
without a meaning and a character outside ASCII cannot come after a backslash. -/
def escape (spaced : Bool) : List Char → Option (Pattern × List Char)
  | [] => none
  | c :: rest =>
    match c with
    | 'x' => hexChar spaced 2 rest
    | 'u' => hexChar spaced 4 rest
    | 'U' => hexChar spaced 8 rest
    | 'd' | 's' | 'w' => some (.shorthand false, rest)
    | 'D' | 'S' | 'W' => some (.shorthand true, rest)
    | 'A' | 'z' => some (.anchor, rest)
    | 'b' | 'B' | '<' | '>' => some (.wordEdge, rest)
    | 'a' => some (.literal ⟨'\x07', false⟩, rest)
    | 'f' => some (.literal ⟨'\x0c', false⟩, rest)
    | 't' => some (.literal ⟨'\t', false⟩, rest)
    | 'n' => some (.literal ⟨'\n', false⟩, rest)
    | 'r' => some (.literal ⟨'\r', false⟩, rest)
    | 'v' => some (.literal ⟨'\x0b', false⟩, rest)
    | c => if c.isAlphanum || 0x80 ≤ c.toNat then none else some (.literal ⟨c, false⟩, rest)

/-! ### Brackets -/

/-- The names of classes of ASCII characters. -/
def classNames : List String :=
  ["alnum", "alpha", "ascii", "blank", "cntrl", "digit", "graph", "lower", "print", "punct",
    "space", "upper", "word", "xdigit"]

/-- A named class after its opening bracket: whether it is negated, and what follows. -/
def namedClass? : List Char → Option (Bool × List Char)
  | ':' :: cs =>
    let (negated, cs) := match cs with
      | '^' :: cs => (true, cs)
      | cs => (false, cs)
    match cs.dropWhile (· != ':') with
    | ':' :: ']' :: rest =>
      if classNames.contains (String.ofList (cs.takeWhile (· != ':'))) then some (negated, rest)
      else none
    | _ => none
  | _ => none

/-- A character of a set or a shorthand, and what follows. -/
def classItem (spaced : Bool) : List Char → Option (ClassSet × List Char)
  | [] => none
  | '\\' :: cs =>
    match escape spaced cs with
    | some (.literal l, rest) => some (.literal l, rest)
    | some (.shorthand negated, rest) => some (.shorthand negated, rest)
    | _ => none
  | c :: rest => some (.literal ⟨c, false⟩, rest)

/-- A range, or what may start one, and what follows. A hyphen before a hyphen or before the
closing bracket makes no range. -/
def classRange (spaced : Bool) (cs : List Char) : Option (ClassSet × List Char) := do
  let (first, rest) ← classItem spaced cs
  match skip spaced rest with
  | '-' :: rest =>
    if [some ']', some '-'].contains (afterHyphen spaced rest) then some (first, '-' :: rest)
    else
      let (last, rest) ← classItem spaced (skip spaced rest)
      match first, last with
      | .literal a, .literal b => if a.char ≤ b.char then some (.range a b, rest) else none
      | _, _ => none
  | rest => some (first, rest)

/-- A set whose closing bracket is still to come. -/
structure OpenSet where
  /-- Whether nothing but hyphens has been read, which stand for themselves there. -/
  atStart : Bool
  /-- The set to combine with, if there is one. -/
  left : Option ClassSet
  /-- The items since, last first. -/
  items : List ClassSet

namespace OpenSet

/-- The set after its opening bracket. -/
def start : OpenSet := ⟨true, none, []⟩

/-- The set with one more item. -/
def push (s : OpenSet) (item : ClassSet) : OpenSet :=
  { s with atStart := false, items := item :: s.items }

/-- What has been read, as a finished set. -/
def close (s : OpenSet) : ClassSet :=
  let last := .union s.items.reverse
  match s.left with
  | some left => .combined left last
  | none => last

/-- The set after a sign that combines. -/
def combine (s : OpenSet) : OpenSet :=
  ⟨false, some s.close, []⟩

end OpenSet

/-- Whether brackets are negated, and what follows. -/
def negation (spaced : Bool) (cs : List Char) : Bool × List Char :=
  match skip spaced cs with
  | '^' :: rest => (true, rest)
  | rest => (false, rest)

/-- A set up to its closing bracket, and what follows. A closing bracket that comes first stands
for itself. -/
def classBody (spaced : Bool) : Nat → OpenSet → List Char → Option (ClassSet × List Char)
  | 0, _, _ => none
  | bound + 1, s, cs =>
    match s.atStart, skip spaced cs with
    | _, [] => none
    | true, '-' :: rest =>
      classBody spaced bound { s.push (.literal ⟨'-', false⟩) with atStart := true } rest
    | atStart, ']' :: rest =>
      if atStart && s.items.isEmpty then
        classBody spaced bound (s.push (.literal ⟨']', false⟩)) rest
      else some (s.close, rest)
    | _, '&' :: '&' :: rest => classBody spaced bound s.combine rest
    | _, '-' :: '-' :: rest => classBody spaced bound s.combine rest
    | _, '~' :: '~' :: rest => classBody spaced bound s.combine rest
    | _, '[' :: rest =>
      match namedClass? rest with
      | some (negated, rest) => classBody spaced bound (s.push (.named negated)) rest
      | none => do
        let (negated, rest) := negation spaced rest
        let (set, rest) ← classBody spaced bound .start rest
        classBody spaced bound (s.push (.bracketed negated set)) rest
    | _, cs => do
      let (item, rest) ← classRange spaced cs
      classBody spaced bound (s.push item) rest

/-! ### Groups -/

/-- The letters of the flags. -/
def flagLetters : List Char := ['i', 'm', 's', 'U', 'u', 'R', 'x']

/-- Flags from the first on, given those before, and what follows. They are switched off after a
hyphen, of which there is at most one, and none comes twice. -/
def flagRun (negated : Bool) (found : Flags) : List Char → Option (Flags × List Char)
  | [] => none
  | c :: cs =>
    if c = ':' ∨ c = ')' then some (found, c :: cs)
    else if c = '-' then
      if negated ∨ cs.head? = some ':' ∨ cs.head? = some ')' then none else flagRun true found cs
    else if flagLetters.contains c && (found.lookup c).isNone then
      flagRun negated ((c, !negated) :: found) cs
    else none

/-- A character with which the name of a group may start. -/
def isNameStart (c : Char) : Bool :=
  c == '_' || Text.isAlphabetic c

/-- A character that may follow in the name of a group. -/
def isNameRest (c : Char) : Bool :=
  c == '_' || c == '.' || c == '[' || c == ']' || Text.isAlphanumeric c

/-- The name of a group up to its closing mark, and what follows. -/
def groupName? (cs : List Char) : Option (String × List Char) :=
  let name := cs.takeWhile (· != '>')
  match name, cs.dropWhile (· != '>') with
  | first :: others, '>' :: rest =>
    if isNameStart first && others.all isNameRest then some (String.ofList name, rest) else none
  | _, _ => none

/-- What stands at the start of a group. -/
inductive GroupStart where
  /-- Flags for the rest of the group around it; this is no group of its own. -/
  | switch (flags : Flags)
  | group (flags : Flags)
  | named (name : String)

/-- The start of a group after its opening parenthesis, and what follows. -/
def groupStart? (spaced : Bool) (cs : List Char) : Option (GroupStart × List Char) :=
  match skip spaced cs with
  | '?' :: 'P' :: '<' :: rest => (groupName? rest).map fun (name, rest) => (.named name, rest)
  | '?' :: '<' :: rest => (groupName? rest).map fun (name, rest) => (.named name, rest)
  | '?' :: rest =>
    match flagRun false [] rest with
    | some (flags, ':' :: rest) => some (.group flags, rest)
    | some (flags, _ :: rest) => if flags.isEmpty then none else some (.switch flags, rest)
    | _ => none
  | rest => some (.group [], rest)

/-- A group whose closing parenthesis is still to come. -/
structure OpenGroup where
  /-- Whether blanks and comments count for nothing. -/
  spaced : Bool
  /-- Its finished branches, last first. -/
  branches : List Pattern
  /-- The items of the branch being read, last first. -/
  items : List Pattern

namespace OpenGroup

/-- The group after its start. -/
def start (spaced : Bool) : OpenGroup := ⟨spaced, [], []⟩

/-- The group with one more item. -/
def push (g : OpenGroup) (p : Pattern) : OpenGroup :=
  { g with items := p :: g.items }

/-- The group after a bar. -/
def branch (g : OpenGroup) : OpenGroup :=
  { g with branches := .concat g.items.reverse :: g.branches, items := [] }

/-- The group with its last item repeated; flags are no item to repeat. -/
def repeatLast? (g : OpenGroup) : Option OpenGroup :=
  match g.items with
  | [] | .switch _ :: _ => none
  | p :: ps => some { g with items := .repeated p :: ps }

/-- What has been read, as a finished pattern. -/
def close (g : OpenGroup) : Pattern :=
  .alternation g.branch.branches.reverse

end OpenGroup

/-- Whether blanks count for nothing after some flags. -/
def spacedAfter (spaced : Bool) (flags : Flags) : Bool :=
  (flags.lookup 'x').getD spaced

/-- The content of a group up to its closing parenthesis or the end, given the names of groups
before; gives the names with those in it, too, and what follows. -/
def content : Nat → List String → OpenGroup → List Char →
    Option (Pattern × List String × List Char)
  | 0, _, _, _ => none
  | bound + 1, names, g, cs =>
    match skip g.spaced cs with
    | [] => some (g.close, names, [])
    | ')' :: rest => some (g.close, names, ')' :: rest)
    | '|' :: rest => content bound names g.branch rest
    | '(' :: rest => do
      let (start, rest) ← groupStart? g.spaced rest
      match start with
      | .switch flags =>
        let g := { g.push (.switch flags) with spaced := spacedAfter g.spaced flags }
        content bound names g rest
      | .group flags =>
        let (p, names, rest) ← content bound names (.start (spacedAfter g.spaced flags)) rest
        match rest with
        | ')' :: rest => content bound names (g.push (.group flags p)) rest
        | _ => none
      | .named name =>
        if names.contains name then none
        else
          let (p, names, rest) ← content bound (name :: names) (.start g.spaced) rest
          match rest with
          | ')' :: rest => content bound names (g.push (.group [] p)) rest
          | _ => none
    | '[' :: rest => do
      let (negated, rest) := negation g.spaced rest
      let (set, rest) ← classBody g.spaced bound .start rest
      content bound names (g.push (.bracketed negated set)) rest
    | '\\' :: rest => do
      let (p, rest) ← escape g.spaced rest
      content bound names (g.push p) rest
    | c :: rest =>
      if c = '?' ∨ c = '*' ∨ c = '+' then do
        let g ← g.repeatLast?
        match rest with
        | '?' :: rest => content bound names g rest
        | rest => content bound names g rest
      else if c = '\x7b' then none
      else if c = '.' then content bound names (g.push .anyChar) rest
      else if c = '^' ∨ c = '$' then content bound names (g.push .anchor) rest
      else content bound names (g.push (.literal ⟨c, false⟩)) rest

end Parser

/-- The pattern that some characters write. -/
def parse? (cs : List Char) : Option Pattern :=
  match Parser.content (cs.length + 1) [] (.start false) cs with
  | some (p, _, []) => some p
  | _ => none

end ZeroTrust.Pattern
