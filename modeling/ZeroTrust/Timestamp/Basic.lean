/-
  `Timestamp.Basic` — a moment, to the nanosecond, in universal time.

  A moment is a date of the Gregorian calendar with a time of day. The second 60
  of any minute is a leap second. Years run from -262143 to 262142.

  A moment is written in the form of RFC 3339 with the zone `Z`. The fraction of
  the second has no digits, three, six or nine: the fewest of these that lose
  nothing. Years outside 0 to 9999 carry a sign.
-/
import ZeroTrust.Text.Decimal

namespace ZeroTrust

/-! ### Dates -/

/-- A year with a twenty-ninth of February. -/
def isLeapYear (year : Int) : Bool :=
  year % 4 == 0 && (year % 100 != 0 || year % 400 == 0)

/-- The number of days of a month. -/
def daysIn (year : Int) (month : Nat) : Nat :=
  if month == 2 then if isLeapYear year then 29 else 28
  else if month == 4 || month == 6 || month == 9 || month == 11 then 30
  else 31

/-- Whether a year, a month and a day make a date. -/
def isDate (year : Int) (month day : Nat) : Bool :=
  -262143 ≤ year && year ≤ 262142 && 1 ≤ month && month ≤ 12 && 1 ≤ day && day ≤ daysIn year month

/-- A date of the Gregorian calendar. -/
structure Date where
  year : Int
  month : Nat
  day : Nat
  valid : isDate year month day = true
  deriving DecidableEq, Repr

namespace Date

/-- The date with a given year, month and day, if there is one. -/
def ofParts? (year : Int) (month day : Nat) : Option Date :=
  if h : isDate year month day = true then some ⟨year, month, day, h⟩ else none

/-- The day after. -/
def next? (d : Date) : Option Date :=
  if d.day < daysIn d.year d.month then ofParts? d.year d.month (d.day + 1)
  else if d.month < 12 then ofParts? d.year (d.month + 1) 1
  else ofParts? (d.year + 1) 1 1

/-- The day before. -/
def previous? (d : Date) : Option Date :=
  if 1 < d.day then ofParts? d.year d.month (d.day - 1)
  else if 1 < d.month then ofParts? d.year (d.month - 1) (daysIn d.year (d.month - 1))
  else ofParts? (d.year - 1) 12 31

/-- A year as it is written. -/
def showYear (year : Int) : String :=
  if 0 ≤ year ∧ year ≤ 9999 then Text.padded 4 year.toNat
  else (if year < 0 then "-" else "+") ++ Text.padded 4 year.natAbs

instance : ToString Date where
  toString d := s!"{showYear d.year}-{Text.padded 2 d.month}-{Text.padded 2 d.day}"

end Date

/-! ### Moments -/

/-- Whether an hour, a minute, a second and a nanosecond make a time of day. -/
def isTimeOfDay (hour minute second nanosecond : Nat) : Bool :=
  hour < 24 && minute < 60 && second ≤ 60 && nanosecond < 1000000000

/-- A moment in universal time. -/
structure Timestamp where
  date : Date
  hour : Nat
  minute : Nat
  second : Nat
  nanosecond : Nat
  valid : isTimeOfDay hour minute second nanosecond = true
  deriving DecidableEq, Repr

namespace Timestamp

/-- The moment with a given date and time of day, if there is one. -/
def ofParts? (date : Date) (hour minute second nanosecond : Nat) : Option Timestamp :=
  if h : isTimeOfDay hour minute second nanosecond = true then
    some ⟨date, hour, minute, second, nanosecond, h⟩
  else none

/-- The first moment of 1970. -/
def epoch : Timestamp where
  date := ⟨1970, 1, 1, by decide⟩
  hour := 0
  minute := 0
  second := 0
  nanosecond := 0
  valid := by decide

/-- The fraction of a second as it is written. -/
def showFraction (nanosecond : Nat) : String :=
  if nanosecond = 0 then ""
  else if nanosecond % 1000000 = 0 then s!".{Text.padded 3 (nanosecond / 1000000)}"
  else if nanosecond % 1000 = 0 then s!".{Text.padded 6 (nanosecond / 1000)}"
  else s!".{Text.padded 9 nanosecond}"

instance : ToString Timestamp where
  toString t :=
    let time := s!"{Text.padded 2 t.hour}:{Text.padded 2 t.minute}:{Text.padded 2 t.second}"
    s!"{t.date}T{time}{showFraction t.nanosecond}Z"

end Timestamp

end ZeroTrust
