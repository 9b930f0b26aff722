import Targeting.Calendar.Moment
import Targeting.Number.Numeral
import Targeting.Text.Utf8

/-!
Reads a calendar date from loose input: the written form of a date, a written date and time at
midnight, or a count of seconds or milliseconds that falls on midnight. A count above twenty
thousand million is one of milliseconds.
-/

namespace Targeting

open Number

/-- What is wrong with the text of a date and time. -/
inductive DateFault where
  | tooShort
  | extraCharacters
  | dateTimeSeparator
  | dateSeparator
  | timeSeparator
  | yearDigit
  | monthDigit
  | dayDigit
  | hourDigit
  | minuteDigit
  | secondDigit
  | zoneSign
  | zoneHour
  | zoneMinute
  | monthRange
  | dayRange
  | hourRange
  | minuteRange
  | secondRange
  | zoneMinuteRange
  | zoneRange
  | fractionMissing
  | tooEarly
  | tooLate
  | notANumber
  deriving DecidableEq, Repr

def DateFault.message : DateFault → String
  | .tooShort => "input is too short"
  | .extraCharacters => "unexpected extra characters at the end of the input"
  | .dateTimeSeparator => "invalid datetime separator, expected `T`, `t`, `_` or space"
  | .dateSeparator => "invalid date separator, expected `-`"
  | .timeSeparator => "invalid time separator, expected `:`"
  | .yearDigit => "invalid character in year"
  | .monthDigit => "invalid character in month"
  | .dayDigit => "invalid character in day"
  | .hourDigit => "invalid character in hour"
  | .minuteDigit => "invalid character in minute"
  | .secondDigit => "invalid character in second"
  | .zoneSign => "invalid timezone sign"
  | .zoneHour => "invalid timezone hour"
  | .zoneMinute => "invalid timezone minute"
  | .monthRange => "month value is outside expected range of 1-12"
  | .dayRange => "day value is outside expected range"
  | .hourRange => "hour value is outside expected range of 0-23"
  | .minuteRange => "minute value is outside expected range of 0-59"
  | .secondRange => "second value is outside expected range of 0-59"
  | .zoneMinuteRange => "timezone minute value is outside expected range of 0-59"
  | .zoneRange => "timezone offset must be less than 24 hours"
  | .fractionMissing => "second fraction digits missing after `.`"
  | .tooEarly => "dates before 0000 are not supported as unix timestamps"
  | .tooLate => "dates after 9999 are not supported as unix timestamps"
  | .notANumber => "NaN values not permitted"

/-- Why a value is not a date. -/
inductive DateError where
  /-- Neither text nor a number. -/
  | wrongKind
  | unreadable (fault : DateFault)
  /-- A date and time that is not midnight. -/
  | inexact
  /-- A day of the year 0. -/
  | yearZero
  deriving DecidableEq, Repr

namespace DateReader

/-- The digit at an index, or the given fault. -/
def digitAt (bytes : List Nat) (i : Nat) (fault : DateFault) : Except DateFault Nat :=
  match bytes[i]? with
  | some b => if 48 ≤ b ∧ b ≤ 57 then .ok (b - 48) else .error fault
  | none => .error fault

def twoDigits (bytes : List Nat) (i : Nat) (fault : DateFault) : Except DateFault Nat := do
  let a ← digitAt bytes i fault
  let b ← digitAt bytes (i + 1) fault
  pure (10 * a + b)

def markAt (bytes : List Nat) (i : Nat) (mark : Nat) (fault : DateFault) : Except DateFault Unit :=
  if bytes[i]? = some mark then .ok () else .error fault

def hyphen : Nat := 0x2D

def colon : Nat := 0x3A

/-- Year, month and day at the front of a text. -/
def dateParts (bytes : List Nat) : Except DateFault (Nat × Nat × Nat) := do
  if bytes.length < 10 then throw .tooShort
  let century ← twoDigits bytes 0 .yearDigit
  let inCentury ← twoDigits bytes 2 .yearDigit
  let year := 100 * century + inCentury
  markAt bytes 4 hyphen .dateSeparator
  let month ← twoDigits bytes 5 .monthDigit
  markAt bytes 7 hyphen .dateSeparator
  let day ← twoDigits bytes 8 .dayDigit
  if month < 1 || 12 < month then throw .monthRange
  if day < 1 || daysInMonth year month < day then throw .dayRange
  pure (year, month, day)

/-- Checks an offset from index `i` on. -/
def zone (bytes : List Nat) (i : Nat) : Except DateFault Unit := do
  match bytes[i]? with
  | none => pure ()
  | some c =>
      if c = 0x5A ∨ c = 0x7A then
        if i + 1 < bytes.length then throw .extraCharacters
      else
        let width ←
          if c = 0x2B ∨ c = hyphen then pure 1
          else if (bytes.drop i).take 3 = [0xE2, 0x88, 0x92] then pure 3
          else throw .zoneSign
        let i := i + width
        let hours ← twoDigits bytes i .zoneHour
        let i := if bytes[i + 2]? = some colon then i + 3 else i + 2
        let minutes ← twoDigits bytes i .zoneMinute
        if 60 ≤ minutes then throw .zoneMinuteRange
        if 24 ≤ hours then throw .zoneRange
        if i + 2 < bytes.length then throw .extraCharacters

/-- Whether the time from index `i` on is midnight. -/
def timeIsMidnight (bytes : List Nat) (i : Nat) : Except DateFault Bool := do
  if bytes.length < i + 5 then throw .tooShort
  let hour ← twoDigits bytes i .hourDigit
  markAt bytes (i + 2) colon .timeSeparator
  let minute ← twoDigits bytes (i + 3) .minuteDigit
  if 23 < hour then throw .hourRange
  if 59 < minute then throw .minuteRange
  let (clear, i) ←
    if bytes[i + 5]? = some colon then do
      let second ← twoDigits bytes (i + 6) .secondDigit
      if 59 < second then throw .secondRange
      let point := bytes[i + 8]?
      if point = some 0x2E ∨ point = some 0x2C then do
        let digits := (bytes.drop (i + 9)).takeWhile fun b => 48 ≤ b && b ≤ 57
        if digits.isEmpty then throw .fractionMissing
        pure (second = 0 && (digits.take 6).all (· == 48), i + 9 + digits.length)
      else pure (second = 0, i + 8)
    else pure (true, i + 5)
  zone bytes i
  pure (hour = 0 && minute = 0 && clear)

/-- Days from the start of the year 1 to the start of 1970. -/
def epochOrdinal : Int := 719162

/-- A count above this is one of milliseconds. -/
def millisecondsAbove : Nat := 20000000000

/-- Whole seconds, and microseconds below one second, of a count since 1970. -/
def splitCount (n : Int) : Int × Nat :=
  if n.natAbs ≤ millisecondsAbove then (n, 0)
  else (n.fdiv 1000, (n.fmod 1000).toNat * 1000)

/-- The date on which a count of seconds since 1970 falls, if it falls on midnight. -/
def ofSeconds (seconds : Int) (micros : Nat) : Except DateError Date :=
  let day := epochOrdinal + seconds.fdiv 86400
  if day < -366 then .error (.unreadable .tooEarly)
  else if 3652059 ≤ day then .error (.unreadable .tooLate)
  else if seconds.fmod 86400 ≠ 0 ∨ micros ≠ 0 then .error .inexact
  else if day < 0 then .error .yearZero
  else
    match Date.ofOrdinal? day.toNat with
    | some date => .ok date
    | none => .error (.unreadable .tooLate)

/-- Whole counts are kept in 64 bits. -/
def fitsCount (n : Int) : Bool :=
  decide (-(twoPow 63) ≤ n) && decide (n < twoPow 63)

/-- Seconds, whether the count was one of seconds or of milliseconds. -/
def inSeconds (negative : Bool) (num den : Nat) : Binary64 :=
  .ofRatio negative num (if den * millisecondsAbove < num then den * 1000 else den)

/-- The date of a count that need not be whole. The seconds are split into the whole ones below
them and the nearest number of microseconds above those. -/
def ofReal : Binary64 → Except DateError Date
  | .nan => .error (.unreadable .notANumber)
  | .infinite negative => .error (.unreadable (if negative then .tooEarly else .tooLate))
  | .finite negative m e =>
      let (num, den) := Binary64.ratio m e
      match inSeconds negative num den with
      | .finite negative m e =>
          let (num, den) := Binary64.ratio m e
          let floor := (if negative then -(num : Int) else num).fdiv den
          let above := if negative then (den - num % den) % den else num % den
          match (Binary64.ofRatio false above den).mul (.ofNat microsPerSecond) with
          | .finite _ m e =>
              let (num, den) := Binary64.ratio m e
              let micros := (2 * num + den) / (2 * den)
              ofSeconds (floor + (micros / microsPerSecond : Nat)) (micros % microsPerSecond)
          | _ => .error (.unreadable .notANumber)
      | _ => .error (.unreadable .notANumber)

/-- The date of a whole count. A count that is no binary number either is not taken for one. -/
def ofInteger (n : Int) : Except DateError Date :=
  if fitsCount n then
    let (seconds, micros) := splitCount n
    ofSeconds seconds micros
  else
    let x := Binary64.ofInt n
    if x.isFinite then ofReal x else .error .wrongKind

/-- A date and time, written out. -/
def ofDateTime (bytes : List Nat) : Except DateFault (Except DateError Date) := do
  let (year, month, day) ← dateParts bytes
  let mark := bytes[10]?
  unless mark = some 0x54 ∨ mark = some 0x74 ∨ mark = some 0x20 ∨ mark = some 0x5F do
    throw .dateTimeSeparator
  let midnight ← timeIsMidnight bytes 11
  pure <|
    if !midnight then .error .inexact
    else
      match Date.ofParts? year month day with
      | some date => .ok date
      | none => .error .yearZero

/-- A written count: digits under a sign, which have to fit a count, or a numeral with a point among
or beside its digits. -/
def ofWrittenCount? (cs : List Char) : Option (Except DateError Date) :=
  let (negative, rest) := takeSign cs
  match rest.dropWhile Char.isDigit with
  | [] =>
      let n := digitsValue rest
      if rest.isEmpty || twoPow 63 ≤ n then none
      else some (ofInteger (if negative then -n else n))
  | '.' :: _ => (readMagnitude? negative rest).map ofReal
  | _ => none

/-- A date of ten characters, written out. -/
def ofPlainDate? (bytes : List Nat) : Option (Except DateError Date) :=
  if bytes.length = 10 then
    match dateParts bytes with
    | .ok (year, month, day) =>
        some (match Date.ofParts? year month day with
          | some date => .ok date
          | none => .error .yearZero)
    | .error _ => none
  else none

/-- Reads the text of a date. Each reading is tried in turn; when all fail, the fault is the one
found in the text as a date and time. -/
def ofText (s : String) : Except DateError Date :=
  let bytes := Text.bytesOf s
  match ofPlainDate? bytes with
  | some result => result
  | none =>
      match ofDateTime bytes with
      | .ok result => result
      | .error fault => (ofWrittenCount? s.toList).getD (.error (.unreadable fault))

end DateReader

end Targeting
