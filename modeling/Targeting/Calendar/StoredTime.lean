import Targeting.Calendar.MomentReader

/-!
Times as the store keeps them: the text of a wall clock, without an offset. A time that is handed
over is written down to the microsecond. A time that the store fills in itself is in universal time
and ends with its seconds. The store has no kind of value for times, it compares their texts, and of
two texts that show the same second the shorter one comes first.
-/

namespace Targeting

open Number

def secondsPerDay : Nat := 86400

theorem secondsPerDay_pos : 0 < secondsPerDay := Nat.succ_pos _

theorem microsPerSecond_pos : 0 < microsPerSecond := Nat.succ_pos _

/-- What a clock shows of a second is less than a day. -/
theorem clock_lt (second : Nat) : second % secondsPerDay < secondsPerDay :=
  Nat.mod_lt second secondsPerDay_pos

/-- The first second after the year 9999. -/
def calendarSeconds : Nat := 3652059 * secondsPerDay

/-- A second from the start of the year 1, and behind it the microseconds if they are written. -/
def storedText (second : Nat) (micros : Option Nat) : String :=
  let date := ((Date.ofOrdinal? (second / secondsPerDay)).map Date.text).getD ""
  let clock := second % secondsPerDay
  date ++ " " ++ padded 2 (clock / 3600) ++ ":" ++ padded 2 (clock / 60 % 60) ++ ":"
    ++ padded 2 (clock % 60) ++ (micros.map fun n => "." ++ padded 6 n).getD ""

/-- The microseconds of an instant behind its second. -/
def microsOf (t : Instant) : Fin microsPerSecond :=
  ⟨t % microsPerSecond, Nat.mod_lt t microsPerSecond_pos⟩

@[simp]
theorem val_microsOf (t : Instant) : (microsOf t).val = t % microsPerSecond := rfl

structure StoredTime where
  second : Nat
  micros : Option (Fin microsPerSecond)
  inCalendar : second < calendarSeconds
  deriving DecidableEq, Repr

namespace StoredTime

def text (t : StoredTime) : String := storedText t.second (t.micros.map (·.val))

/-- What the clock shows. -/
def wall (t : StoredTime) : Instant :=
  t.second * microsPerSecond + (t.micros.map (·.val)).getD 0

/-- Reads what the store has kept. -/
def ofText? (s : String) : Option StoredTime :=
  match Moment.read s with
  | .ok m =>
      let micros := if s.toList.contains '.' then some (microsOf m.wall) else none
      if h : m.wall / microsPerSecond < calendarSeconds then
        some ⟨m.wall / microsPerSecond, micros, h⟩
      else none
  | .error _ => none

end StoredTime

namespace Moment

/-- The text in which a moment is handed over. Its offset is lost. -/
def storedText (m : Moment) : String :=
  Targeting.storedText (m.wall / microsPerSecond) (some (m.wall % microsPerSecond))

/-- The text that the store fills in by its own clock. -/
def filledText (m : Moment) : String :=
  Targeting.storedText (m.instant / microsPerSecond) none

end Moment

end Targeting
