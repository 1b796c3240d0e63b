/-
  `Evaluation.Domain` — mail domains and server names.

  Both are compared without regard to ASCII case, and both end at label
  boundaries: `example.com` covers `eu.example.com` but not `badexample.com`. A
  mail address lies in its own domain and in the ones above it. A wildcard covers
  the names below its parent, at any depth, but not the parent.
-/
import ZeroTrust.Text.AsciiCase
import ZeroTrust.Text.Blank

namespace ZeroTrust.Domain

/-- What follows the last occurrence of a character, if it occurs. -/
def afterLast? (c : Char) (cs : List Char) : Option (List Char) :=
  if cs.contains c then some (cs.reverse.takeWhile (· != c)).reverse else none

/-- The characters without the given one repeated at their end. -/
def dropEnd (c : Char) (cs : List Char) : List Char :=
  (cs.reverse.dropWhile (· == c)).reverse

/-! ### Mail addresses -/

/-- The domain of a mail address in small letters, if it has one. -/
def ofEmail? (email : String) : Option (List Char) :=
  afterLast? '@' (Text.lower (Text.trim email)).toList

/-- Whether a mail address lies in a domain given in small letters, or in one below it. -/
def holdsEmail (domain : String) (email : String) : Bool :=
  (ofEmail? email).any fun d =>
    d == domain.toList || ('.' :: domain.toList).isSuffixOf d

/-! ### Server names -/

/-- A server name as it is compared: trimmed, without dots at its end, in small letters. -/
def normalized (name : String) : List Char :=
  (dropEnd '.' (Text.trim name).toList).map Char.toLower

/-- Whether a normalized pattern covers a normalized server name. -/
def covers : List Char → List Char → Bool
  | '*' :: '.' :: parent, name =>
    ('.' :: parent).isSuffixOf name && parent.length + 1 < name.length
  | pattern, name => pattern == name

/-- Whether a pattern covers a server name. -/
def matchesServer (pattern name : String) : Bool :=
  covers (normalized pattern) (normalized name)

example : holdsEmail "example.com" "A@EU.Example.com" = true := by decide
example : holdsEmail "example.com" "a@badexample.com" = false := by decide
example : matchesServer "*.example.com" "a.b.example.com." = true := by decide
example : matchesServer "*.example.com" "example.com" = false := by decide

end ZeroTrust.Domain
