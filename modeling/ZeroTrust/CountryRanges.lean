/-
  `CountryRanges` — which country an address belongs to.

  A range file has one range per line: the first and the last address and a
  two-letter country code, between blanks. What follows the code does not count,
  and neither do blank lines and lines that start with `#`. The lines may stand in
  any order, but no address may lie in two ranges.
-/
import ZeroTrust.Net.Address
import ZeroTrust.Text.AsciiCase
import ZeroTrust.Text.Blank
import ZeroTrust.Text.Lines

namespace ZeroTrust

/-- The addresses from one to another, both included, and their country. -/
structure CountryRange where
  first : Net.Ipv4
  last : Net.Ipv4
  /-- The code of the country, in capital letters. -/
  country : String
  deriving DecidableEq, Repr

/-! ### Faults -/

/-- Why a line gives no range. -/
inductive LineFault where
  | missingFields (line : String)
  | notAddress (field : String)
  | reversed (first last : Net.Ipv4)
  | notCountry (field : String)
  deriving DecidableEq, Repr

/-- Why a file gives no ranges. -/
inductive RangesFault where
  /-- A line, counted from one, gives no range. -/
  | line (number : Nat) (fault : LineFault)
  /-- Two ranges, given by their first addresses, share an address. -/
  | overlap (lower upper : Net.Ipv4)
  deriving DecidableEq, Repr

/-- The words for what is wrong with a line. -/
def LineFault.message : LineFault → String
  | missingFields line => s!"expected '<start> <end> <country>', got '{line}'"
  | notAddress field => s!"'{field}' is not an IPv4 address"
  | reversed first last => s!"range start {first} is after end {last}"
  | notCountry field => s!"'{field}' is not a two-letter country code"

/-- The words for what is wrong with a file. -/
def RangesFault.message : RangesFault → String
  | line number fault => s!"GeoIP line {number}: {fault.message}"
  | overlap lower upper => s!"GeoIP ranges starting at {lower} and {upper} overlap"

/-! ### Reading -/

namespace CountryRange

/-- Whether a text is two ASCII letters. -/
def isCode (s : String) : Bool :=
  s.toList.length == 2 && s.toList.all Char.isAlpha

/-- Reads an address. -/
def address (field : String) : Except LineFault Net.Ipv4 :=
  match Net.Ipv4.parse? field with
  | some a => .ok a
  | none => .error (.notAddress field)

/-- Reads the range that a trimmed line gives. -/
def ofLine (line : String) : Except LineFault CountryRange :=
  match Text.words line with
  | first :: last :: country :: _ => do
    let first ← address first
    let last ← address last
    if last.toNat < first.toNat then throw (.reversed first last)
    if !isCode country then throw (.notCountry country)
    return ⟨first, last, Text.upper country⟩
  | _ => .error (.missingFields line)

/-- Whether a trimmed line is one to pass over. -/
def isPassedOver (line : String) : Bool :=
  line == "" || line.toList.head? == some '#'

/-- Reads the ranges of some lines, which are counted from a number on. -/
def ofLines (number : Nat) : List String → Except RangesFault (List CountryRange)
  | [] => .ok []
  | line :: lines => do
    let line := Text.trim line
    if isPassedOver line then ofLines (number + 1) lines
    else
      match ofLine line with
      | .ok range => return range :: (← ofLines (number + 1) lines)
      | .error fault => throw (.line number fault)

/-- The first two neighbours among ascending ranges that share an address. -/
def firstOverlap? : List CountryRange → Option (CountryRange × CountryRange)
  | a :: b :: rest =>
    if b.first.toNat ≤ a.last.toNat then some (a, b) else firstOverlap? (b :: rest)
  | _ => none

end CountryRange

/-- Ranges of addresses, ascending and apart, with their countries. -/
structure CountryRanges where
  ranges : List CountryRange
  deriving DecidableEq, Repr

namespace CountryRanges

/-- The table without ranges. -/
def empty : CountryRanges := ⟨[]⟩

/-- Puts ranges in order, unless two of them overlap. -/
def ofRanges (ranges : List CountryRange) : Except RangesFault CountryRanges :=
  let sorted := ranges.mergeSort fun a b => a.first.toNat ≤ b.first.toNat
  match CountryRange.firstOverlap? sorted with
  | some (a, b) => .error (.overlap a.first b.first)
  | none => .ok ⟨sorted⟩

/-- Reads a range file. -/
def ofText (text : String) : Except RangesFault CountryRanges := do
  ofRanges (← CountryRange.ofLines 1 (Text.lines text))

/-- The number of ranges. -/
def size (t : CountryRanges) : Nat :=
  t.ranges.length

/-- The country of an address of four octets: that of the first range which does not end before it,
if the range has begun by then. -/
def countryOf? (t : CountryRanges) (a : Net.Ipv4) : Option String :=
  match t.ranges.find? fun r => a.toNat ≤ r.last.toNat with
  | some r => if r.first.toNat ≤ a.toNat then some r.country else none
  | none => none

/-- The country of an address, if it is or maps one of four octets. -/
def locate (t : CountryRanges) (a : Net.Address) : Option String :=
  a.ipv4?.bind t.countryOf?

end CountryRanges

end ZeroTrust
