import Targeting.Number.Rounding

/-!
Dates of the Gregorian calendar from the year 1 to the year 9999, counted in days from the first
of them.
-/

namespace Targeting

open Number

/-- A leap year has a 29th of February. -/
def isLeapYear (year : Nat) : Bool :=
  year % 4 == 0 && (year % 100 != 0 || year % 400 == 0)

def daysInMonth (year month : Nat) : Nat :=
  match month with
  | 1 | 3 | 5 | 7 | 8 | 10 | 12 => 31
  | 4 | 6 | 9 | 11 => 30
  | 2 => if isLeapYear year then 29 else 28
  | _ => 0

/-- A day that exists. -/
structure Date where
  year : Nat
  month : Nat
  day : Nat
  year_ge : 1 ≤ year
  year_le : year ≤ 9999
  day_ge : 1 ≤ day
  day_le : day ≤ daysInMonth year month
  deriving DecidableEq, Repr

namespace Date

def ofParts? (year month day : Nat) : Option Date :=
  if h : 1 ≤ year ∧ year ≤ 9999 ∧ 1 ≤ day ∧ day ≤ daysInMonth year month then
    some ⟨year, month, day, h.1, h.2.1, h.2.2.1, h.2.2.2⟩
  else none

/-- Days of the months in front of a month. -/
def daysBeforeMonth (year month : Nat) : Nat :=
  (List.range (month - 1)).foldl (fun days m => days + daysInMonth year (m + 1)) 0

/-- Days of the years in front of a year. -/
def daysBeforeYear (year : Nat) : Nat :=
  let y := year - 1
  365 * y + y / 4 - y / 100 + y / 400

/-- Days from the first of January of the year 1. -/
def ordinal (d : Date) : Nat :=
  daysBeforeYear d.year + daysBeforeMonth d.year d.month + (d.day - 1)

/-- The month and the day of the month of a day of a year, both from 1. -/
def monthOfDay (year : Nat) : Nat → Nat → Nat → Nat × Nat
  | 0, month, rest => (month, rest + 1)
  | fuel + 1, month, rest =>
      let length := daysInMonth year month
      if rest < length then (month, rest + 1) else monthOfDay year fuel (month + 1) (rest - length)

/-- The date with a given ordinal, up to the last day of the year 9999. -/
def ofOrdinal? (n : Nat) : Option Date :=
  let eras := n / 146097
  let inEra := n % 146097
  let centuries := min 3 (inEra / 36524)
  let inCentury := inEra - centuries * 36524
  let fours := inCentury / 1461
  let inFour := inCentury % 1461
  let years := min 3 (inFour / 365)
  let year := 400 * eras + 100 * centuries + 4 * fours + years + 1
  let (month, day) := monthOfDay year 11 1 (inFour - years * 365)
  ofParts? year month day

/-- Year, month and day, set apart by hyphens. -/
def text (d : Date) : String :=
  padded 4 d.year ++ "-" ++ padded 2 d.month ++ "-" ++ padded 2 d.day

end Date

end Targeting
