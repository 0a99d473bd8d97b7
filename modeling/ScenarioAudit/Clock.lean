import ScenarioAudit.Trouble
import ScenarioAudit.Number.Shortest

/-!
# Moments and stamps

A moment is a calendar date with a time of day, in universal time. Days are counted by the proleptic
Gregorian calendar; the epoch is the start of 1970. A stamp shows a moment to the second, with the year as it
is counted.
-/

namespace ScenarioAudit

open ScenarioAudit.Number

/-- A date and a time of day in universal time. -/
structure Moment where
  year : Int
  month : Nat
  day : Nat
  hour : Nat
  minute : Nat
  second : Nat
  microsecond : Nat
  deriving DecidableEq, Repr, Inhabited

namespace Moment

/-- Every fourth year is a leap year, except the centuries that 400 does not divide. -/
def isLeap (y : Int) : Bool :=
  y % 4 = 0 && (y % 100 ≠ 0 || y % 400 = 0)

def daysInMonth (y : Int) (m : Nat) : Nat :=
  if m = 2 then (if isLeap y then 29 else 28)
  else if m = 4 || m = 6 || m = 9 || m = 11 then 30
  else 31

/-- The days from the epoch to a date. Years are counted from March, so that the leap day is the last. -/
def daysOfDate (y : Int) (m d : Nat) : Int :=
  let y' := if m ≤ 2 then y - 1 else y
  let era := y'.fdiv 400
  let yearOfEra := y' - era * 400
  let monthFromMarch : Int := (m + 9) % 12
  let dayOfYear := (153 * monthFromMarch + 2) / 5 + (d : Int) - 1
  let dayOfEra := yearOfEra * 365 + yearOfEra / 4 - yearOfEra / 100 + dayOfYear
  era * 146097 + dayOfEra - 719468

def dateOfDays (days : Int) : Int × Nat × Nat :=
  let z := days + 719468
  let era := z.fdiv 146097
  let dayOfEra := z - era * 146097
  let yearOfEra := (dayOfEra - dayOfEra / 1460 + dayOfEra / 36524 - dayOfEra / 146096) / 365
  let dayOfYear := dayOfEra - (365 * yearOfEra + yearOfEra / 4 - yearOfEra / 100)
  let monthFromMarch := (5 * dayOfYear + 2) / 153
  let day := dayOfYear - (153 * monthFromMarch + 2) / 5 + 1
  let month := if monthFromMarch < 10 then monthFromMarch + 3 else monthFromMarch - 9
  let year := yearOfEra + era * 400 + (if month ≤ 2 then 1 else 0)
  (year, month.toNat, day.toNat)

def ofSeconds (seconds : Int) (microsecond : Nat) : Moment :=
  let days := seconds.fdiv 86400
  let rest := (seconds - days * 86400).toNat
  let (y, m, d) := dateOfDays days
  ⟨y, m, d, rest / 3600, rest / 60 % 60, rest % 60, microsecond⟩

def toSeconds (t : Moment) : Int :=
  daysOfDate t.year t.month t.day * 86400 + (t.hour * 3600 + t.minute * 60 + t.second : Nat)

def yearInRange (y : Int) : Bool :=
  1 ≤ y && y ≤ 9999

def fault? (y mo d h mi s us : Int) : Option MomentFault :=
  if !yearInRange y then some (.year y)
  else if !(1 ≤ mo && mo ≤ 12) then some .month
  else if !(1 ≤ d && d ≤ daysInMonth y mo.toNat) then some .day
  else if !(0 ≤ h && h ≤ 23) then some .hour
  else if !(0 ≤ mi && mi ≤ 59) then some .minute
  else if !(0 ≤ s && s ≤ 59) then some .second
  else if !(0 ≤ us && us ≤ 999999) then some .microsecond
  else none

/-- Whether a number fits a field of a date and time: thirty-two bits with a sign. -/
def fitsField (i : Int) : Bool :=
  -2147483648 ≤ i && i ≤ 2147483647

/-- Whether a number of minutes can be written as a span of at most nine digits of days. -/
def isSpan (minutes : Int) : Bool :=
  -999999999 ≤ minutes.fdiv 1440 && minutes.fdiv 1440 ≤ 999999999

/-- The moment of a local date and time at an offset of some minutes from universal time. -/
def ofLocal (y mo d h mi s us offset : Int) : Except Trouble Moment :=
  if !isSpan offset then .error .overflow
  else if !(-1440 < offset && offset < 1440) then .error (.moment (.zone offset))
  else if [y, mo, d, h, mi, s, us].any (!fitsField ·) then .error .overflow
  else
    match fault? y mo d h mi s us with
    | some f => .error (.moment f)
    | none =>
      let there : Moment := ⟨y, mo.toNat, d.toNat, h.toNat, mi.toNat, s.toNat, us.toNat⟩
      let t := ofSeconds (there.toSeconds - offset * 60) us.toNat
      if yearInRange t.year then .ok t else .error .overflow

def two (n : Nat) : String :=
  padZeros 2 (toString n)

def stamp (t : Moment) : String :=
  toString t.year ++ "-" ++ two t.month ++ "-" ++ two t.day ++ "T" ++ two t.hour ++ ":" ++ two t.minute
    ++ ":" ++ two t.second ++ "Z"

/-- The text of a moment in a document: the year in four digits, and microseconds if there are any. -/
def display (t : Moment) : String :=
  padZeros 4 (toString t.year) ++ "-" ++ two t.month ++ "-" ++ two t.day ++ "T" ++ two t.hour ++ ":"
    ++ two t.minute ++ ":" ++ two t.second
    ++ (if t.microsecond = 0 then "" else "." ++ padZeros 6 (toString t.microsecond)) ++ "Z"

end Moment

end ScenarioAudit
