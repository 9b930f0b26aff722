import Targeting.Calendar.Moment
import Targeting.Number.Binary64

/-!
Windows of time that reach back from a moment. A unit of a window has a fixed number of days: a
month has thirty and a year three hundred and sixty-five. A length in days is turned into
microseconds with its whole days exact, and only the fraction of a day rounded.
-/

namespace Targeting

open Number

inductive WindowUnit where
  | days
  | weeks
  | months
  | years
  deriving DecidableEq, Repr

namespace WindowUnit

def all : List WindowUnit := [.days, .weeks, .months, .years]

def name : WindowUnit → String
  | .days => "days"
  | .weeks => "weeks"
  | .months => "months"
  | .years => "years"

def dayCount : WindowUnit → Nat
  | .days => 1
  | .weeks => 7
  | .months => 30
  | .years => 365

def ofName? (name : String) : Option WindowUnit :=
  all.find? fun u => u.name == name

/-- The days of a number of units. -/
def span (u : WindowUnit) (number : Binary64) : Binary64 :=
  number.mul (.ofNat u.dayCount)

end WindowUnit

/-- The microseconds of a length in days, sign aside. The part of a day is scaled in binary
arithmetic; what is left below a microsecond goes to the nearest one, a tie to the even one. -/
def daysInMicros? : Binary64 → Option Nat
  | .finite _ m e =>
      let (num, den) := Binary64.ratio m e
      let part := (Binary64.ofRatio false (num % den) den).mul (.ofNat microsPerDay)
      match part with
      | .finite _ k f =>
          let (a, b) := Binary64.ratio k f
          some (roundDiv (num / den * microsPerDay * b + a) b)
      | _ => none
  | _ => none

/-- The moment that lies a length in days back, on the same clock, unless the calendar ends
before it. -/
def Moment.daysBack? (now : Moment) (days : Binary64) : Option Moment :=
  match daysInMicros? days with
  | some micros => if micros ≤ now.wall then some ⟨now.wall - micros, now.offset⟩ else none
  | none => none

end Targeting
