/-
  `Timestamp.Parser` — reading a moment.

  A moment is read from a date, one of `T`, `t` and a space, a time of day with an
  optional fraction, and a zone. The numbers may have fewer digits than they are
  written with, and blanks may stand before numbers and marks. The zone is `Z`,
  `UTC` in any case, or a sign, two digits for hours and two for minutes, which
  colons and blanks may separate. Digits of a fraction past the ninth are dropped.

  A local time is moved to universal time by whole minutes, so that its seconds
  stay, and by less than a day, so that its date moves by one day at most.
-/
import ZeroTrust.Text.AsciiCase
import ZeroTrust.Text.Blank
import ZeroTrust.Timestamp.Basic

namespace ZeroTrust.Timestamp.Parser

/-! ### Parts -/

/-- A number of one to `width` digits after blanks, and what follows. -/
def number (width : Nat) (cs : List Char) : Option (Nat × List Char) :=
  let cs := Text.dropBlank cs
  let digits := (cs.take width).takeWhile Char.isDigit
  (Text.digits? digits).map fun n => (n, cs.drop digits.length)

/-- A year after blanks, and what follows. A sign lifts the limit of four digits. -/
def year (cs : List Char) : Option (Int × List Char) :=
  match Text.dropBlank cs with
  | '-' :: cs => (unlimited cs).map fun (n, rest) => (-(n : Int), rest)
  | '+' :: cs => (unlimited cs).map fun (n, rest) => ((n : Int), rest)
  | cs => (number 4 cs).map fun (n, rest) => ((n : Int), rest)
where
  /-- All digits at the front, and what follows. -/
  unlimited (cs : List Char) : Option (Nat × List Char) :=
    (Text.digits? (cs.takeWhile Char.isDigit)).map fun n => (n, cs.dropWhile Char.isDigit)

/-- What follows a mark after blanks. -/
def mark (m : Char) (cs : List Char) : Option (List Char) :=
  match Text.dropBlank cs with
  | c :: rest => if c = m then some rest else none
  | [] => none

/-- The nanoseconds of an optional fraction, and what follows. -/
def fraction : List Char → Option (Nat × List Char)
  | '.' :: cs => do
    let digits := cs.takeWhile Char.isDigit
    let kept := digits.take 9
    let n ← Text.digits? kept
    return (n * Nat.pow 10 (9 - kept.length), cs.drop digits.length)
  | cs => some (0, cs)

/-- Two digits, and what follows. -/
def twoDigits : List Char → Option (Nat × List Char)
  | a :: b :: rest => (Text.digits? [a, b]).map fun n => (n, rest)
  | _ => none

/-- The minutes of a zone after its sign, and what follows. -/
def zoneMinutes (cs : List Char) : Option (Nat × List Char) := do
  let (hours, cs) ← twoDigits cs
  let (minutes, cs) ← twoDigits (cs.dropWhile fun c => c == ':' || Text.isBlank c)
  if hours < 24 ∧ minutes < 60 then some (hours * 60 + minutes, cs) else none

/-- The minutes by which a zone is ahead of universal time, and what follows. -/
def zone (cs : List Char) : Option (Int × List Char) :=
  if Text.lower (String.ofList (cs.take 3)) = "utc" then some (0, cs.drop 3)
  else
    match cs with
    | 'Z' :: rest => some (0, rest)
    | 'z' :: rest => some (0, rest)
    | '+' :: rest => (zoneMinutes rest).map fun (n, rest) => ((n : Int), rest)
    | '-' :: rest => (zoneMinutes rest).map fun (n, rest) => (-(n : Int), rest)
    | '−' :: rest => (zoneMinutes rest).map fun (n, rest) => (-(n : Int), rest)
    | _ => none

/-! ### Universal time -/

/-- The date and the minute of the day at which a local minute falls in universal time. -/
def toUniversal (date : Date) (minutes : Nat) (ahead : Int) : Option (Date × Nat) :=
  let moved := (minutes : Int) - ahead
  if moved < 0 then date.previous?.map fun d => (d, (moved + 1440).toNat)
  else if moved < 1440 then some (date, moved.toNat)
  else date.next?.map fun d => (d, (moved - 1440).toNat)

end Parser

/-- The moment that a text writes. -/
def parse? (s : String) : Option Timestamp := do
  let (year, cs) ← Parser.year s.toList
  let cs ← Parser.mark '-' cs
  let (month, cs) ← Parser.number 2 cs
  let cs ← Parser.mark '-' cs
  let (day, cs) ← Parser.number 2 cs
  let cs ←
    match cs with
    | c :: cs => if c = 'T' ∨ c = 't' ∨ c = ' ' then some cs else none
    | [] => none
  let (hour, cs) ← Parser.number 2 cs
  let cs ← Parser.mark ':' cs
  let (minute, cs) ← Parser.number 2 cs
  let cs ← Parser.mark ':' cs
  let (second, cs) ← Parser.number 2 cs
  let (nanosecond, cs) ← Parser.fraction cs
  let (ahead, cs) ← Parser.zone (Text.dropBlank cs)
  guard (Text.dropBlank cs).isEmpty
  let localDate ← Date.ofParts? year month day
  guard (isTimeOfDay hour minute second nanosecond)
  let (date, minutes) ← Parser.toUniversal localDate (hour * 60 + minute) ahead
  ofParts? date (minutes / 60) (minutes % 60) second nanosecond

example : (parse? "2024-12-31T20:00:00-08:00").map toString = some "2025-01-01T04:00:00Z" := by
  decide
example : (parse? "2024-01-02T03:04:05.5Z").map toString = some "2024-01-02T03:04:05.500Z" := by
  decide
example : (parse? "2023-02-29T00:00:00Z").isNone = true := by decide

end ZeroTrust.Timestamp
