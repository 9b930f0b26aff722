import Targeting.Calendar.Date

/-!
Moments in time. A moment is what a wall clock shows, in microseconds from the start of the year
1, together with the clock's offset from universal time where it is known. The store keeps
instants: the wall clock of universal time, without an offset.
-/

namespace Targeting

open Number

/-- Microseconds from the start of the year 1 in universal time. -/
abbrev Instant := Nat

def microsPerSecond : Nat := 1000000

def microsPerDay : Nat := 86400 * microsPerSecond

/-- The first instant after the year 9999. -/
def calendarEnd : Instant := 3652059 * microsPerDay

structure Moment where
  wall : Nat
  /-- Microseconds ahead of universal time. -/
  offset : Option Int
  deriving DecidableEq, Repr

/-- The instant at which a date begins. -/
def Date.midnight (d : Date) : Instant := d.ordinal * microsPerDay

namespace Moment

def ofInstant (t : Instant) : Moment := ⟨t, some 0⟩

/-- The instant of a moment; a moment without an offset is taken as universal time. -/
def instant (m : Moment) : Instant :=
  ((m.wall : Int) - m.offset.getD 0).toNat

/-- The same moment on the clock of universal time, if the calendar has it there. -/
def inUniversalTime? (m : Moment) : Option Moment :=
  let t := (m.wall : Int) - m.offset.getD 0
  if 0 ≤ t ∧ t < calendarEnd then some (ofInstant t.toNat) else none

/-- Hours, minutes and seconds, then the microseconds if there are any. -/
def timeText (t : Nat) : String :=
  let seconds := t / microsPerSecond
  let micros := t % microsPerSecond
  padded 2 (seconds / 3600) ++ ":" ++ padded 2 (seconds / 60 % 60) ++ ":"
    ++ padded 2 (seconds % 60) ++ (if micros = 0 then "" else "." ++ padded 6 micros)

/-- Date and time of a wall clock. -/
def wallText (wall : Nat) : String :=
  let date := ((Date.ofOrdinal? (wall / microsPerDay)).map Date.text).getD ""
  date ++ "T" ++ timeText (wall % microsPerDay)

/-- A sign, hours and minutes, then the seconds and their fraction if there are any. -/
def offsetText (offset : Int) : String :=
  let n := offset.natAbs / microsPerSecond
  let micros := offset.natAbs % microsPerSecond
  (if offset < 0 then "-" else "+") ++ padded 2 (n / 3600) ++ ":" ++ padded 2 (n / 60 % 60)
    ++ (if n % 60 = 0 ∧ micros = 0 then "" else ":" ++ padded 2 (n % 60))
    ++ (if micros = 0 then "" else "." ++ padded 6 micros)

def text (m : Moment) : String :=
  wallText m.wall ++ (m.offset.map offsetText).getD ""

/-- The text of a moment of universal time with `Z` for its offset. -/
def zuluText (m : Moment) : String :=
  wallText m.instant ++ "Z"

end Moment

end Targeting
