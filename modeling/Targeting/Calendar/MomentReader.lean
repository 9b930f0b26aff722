import Targeting.Calendar.Moment
import Targeting.Json.Label
import Targeting.Number.Numeral
import Targeting.Text.Utf8

/-!
Reads a written moment: a date by month or by week, with or without hyphens; then perhaps any one
character, a time of day with or without colons, and an offset. It is read byte by byte, each byte
standing as the character with its number, and all lengths are those in bytes.
-/

namespace Targeting.Moment

open Number Text

/-- A number of exactly `width` digits and what follows it. -/
def takeNumber? (width : Nat) (cs : List Char) : Option (Nat × List Char) :=
  let digits := cs.take width
  if digits.length = width ∧ digits.all Char.isDigit then
    some (digitsValue digits, cs.drop width)
  else none

def takeMark? (mark : Char) : List Char → Option (List Char)
  | c :: rest => if c = mark then some rest else none
  | [] => none

/-- How many bytes of a text are its date. With a week, a hyphen and more digits behind it,
the hyphen is taken for the character in front of the time; without hyphens, the day of the week
is there when the digits behind the week are odd in number. -/
def dateLength (cs : List Char) : Nat :=
  if cs.length = 7 then 7
  else
    match cs.drop 4 with
    | '-' :: 'W' :: rest =>
        let tail := rest.drop 2
        if tail.head? = some '-' ∧ ¬ (tail[2]?).any Char.isDigit then 10 else 8
    | '-' :: _ => 10
    | 'W' :: rest =>
        let digits := ((rest.drop 2).takeWhile Char.isDigit).length
        if digits < 2 then 7 + digits else if digits % 2 = 0 then 8 else 7
    | _ => 8

/-- What is wrong with a written moment. -/
inductive Fault where
  | unreadable
  | offset (micros : Int)
  | year (n : Nat)
  | month
  | day
  | hour
  | minute
  | second
  deriving DecidableEq, Repr

/-- A length of time by its days, which may be negative, and the seconds and microseconds on top
of them. -/
def spanText (micros : Int) : String :=
  let rest := micros.emod microsPerDay
  let parts := [("days", micros.ediv microsPerDay), ("seconds", rest / microsPerSecond),
    ("microseconds", rest % microsPerSecond)]
  "datetime.timedelta("
    ++ ", ".intercalate ((parts.filter (·.2 ≠ 0)).map fun part => part.1 ++ "=" ++ toString part.2)
    ++ ")"

/-- What is said of a text with a fault. -/
def Fault.describe (s : String) : Fault → String
  | .unreadable => "Invalid isoformat string: " ++ quotedText s
  | .offset micros =>
      "offset must be a timedelta strictly between -timedelta(hours=24) and "
        ++ "timedelta(hours=24), not " ++ spanText micros ++ "."
  | .year n => "year " ++ digitText n ++ " is out of range"
  | .month => "month must be in 1..12"
  | .day => "day is out of range for month"
  | .hour => "hour must be in 0..23"
  | .minute => "minute must be in 0..59"
  | .second => "second must be in 0..59"

/-- A year, a month and a day as they are written. -/
structure WrittenDate where
  year : Nat
  month : Nat
  day : Nat

/-- The day that is written, if it exists. -/
def WrittenDate.date (w : WrittenDate) : Except Fault Date :=
  match Date.ofParts? w.year w.month w.day with
  | some d => .ok d
  | none =>
      .error (if w.year = 0 ∨ 9999 < w.year then .year w.year
        else if w.month = 0 ∨ 12 < w.month then .month else .day)

/-- The date of a day of a week of a year. A year has fifty-three weeks when it starts on a
Thursday, or on a Wednesday and is a leap year. The last week of all ends beyond the last year,
and no week of a year 0 has a month. -/
def ofWeek? (year week day : Nat) : Option WrittenDate :=
  let start := Date.daysBeforeYear year
  let weekday := start % 7
  let isLong := year ≠ 0 ∧ (weekday = 3 ∨ (weekday = 2 ∧ isLeapYear year))
  if 1 ≤ week ∧ week ≤ (if isLong then 53 else 52) ∧ 1 ≤ day ∧ day ≤ 7 then
    let monday : Int := (start : Int) - weekday + (if 3 < weekday then 7 else 0)
    if year = 0 then some ⟨1, 0, 1⟩
    else
      match Date.ofOrdinal? (monday + ((week - 1) * 7 + day - 1 : Nat)).toNat with
      | some d => some ⟨d.year, d.month, d.day⟩
      | none => some ⟨year + 1, 1, 1⟩
  else none

/-- Reads a date; a week without a day starts on Monday. -/
def readDate? (length : Nat) (cs : List Char) : Option WrittenDate := do
  let (year, rest) ← takeNumber? 4 cs
  let isSpaced := rest.head? = some '-'
  let rest := if isSpaced then rest.drop 1 else rest
  let separated? (rest : List Char) : Option (List Char) :=
    if isSpaced then takeMark? '-' rest else some rest
  match takeMark? 'W' rest with
  | some rest => do
      let (week, rest) ← takeNumber? 2 rest
      if length ≤ cs.length - rest.length then ofWeek? year week 1
      else
        let (day, _) ← takeNumber? 1 (← separated? rest)
        ofWeek? year week day
  | none => do
      let (month, rest) ← takeNumber? 2 rest
      let (day, _) ← takeNumber? 2 (← separated? rest)
      pure ⟨year, month, day⟩

/-- Hours, minutes and seconds as far as they are written, the microseconds behind them, and
whether nothing else is left. -/
structure TimeParts where
  values : List Nat
  micros : Nat
  isWhole : Bool

namespace TimeParts

def seconds (t : TimeParts) : Nat :=
  t.values.getD 0 0 * 3600 + t.values.getD 1 0 * 60 + t.values.getD 2 0

/-- Puts a value in front. -/
def cons (value : Nat) (t : TimeParts) : TimeParts := ⟨value :: t.values, t.micros, t.isWhole⟩

/-- A decimal fraction of a second; digits beyond the sixth are dropped. -/
def ofFraction? (cs : List Char) : Option TimeParts :=
  let kept := cs.take 6
  if kept.all Char.isDigit then
    some ⟨[], digitsValue kept * tenPow (6 - kept.length),
      ((cs.drop 6).dropWhile Char.isDigit).isEmpty⟩
  else none

/-- Reads up to `left` values and then a fraction. Either all values have a colon in front of
them or none has; a single character at the end belongs to nothing. -/
def read? (isSpaced : Bool) : Nat → List Char → Option TimeParts
  | 0, cs => ofFraction? cs
  | left + 1, cs => do
      let (value, rest) ← takeNumber? 2 cs
      match rest with
      | [] => some ⟨[value], 0, true⟩
      | [_] => some ⟨[value], 0, false⟩
      | '.' :: rest | ',' :: rest => (ofFraction? rest).map (cons value)
      | ':' :: rest => if isSpaced then (read? isSpaced left rest).map (cons value) else none
      | rest => if isSpaced then none else (read? isSpaced left rest).map (cons value)

end TimeParts

/-- The parts of a written time. -/
def timeParts? (cs : List Char) : Option TimeParts :=
  TimeParts.read? (cs[2]? = some ':') 3 cs

/-- The microseconds of an offset. An offset of no seconds is none, whatever its fraction. -/
def readOffset? : List Char → Option (Option Int)
  | [] => some none
  | 'Z' :: rest => if rest.isEmpty then some (some 0) else none
  | sign :: rest => do
      let t ← timeParts? rest
      let total := if t.seconds = 0 then 0 else t.seconds * microsPerSecond + t.micros
      guard t.isWhole
      pure (some (if sign = '-' then -(total : Int) else total))

/-- The parts of a time of day and the offset behind it. In front of an offset, what is left of
the time is passed over. -/
def readTime? (cs : List Char) : Option (TimeParts × Option Int) := do
  let isSign (c : Char) : Bool := c == '+' || c == '-' || c == 'Z'
  let t ← timeParts? (cs.takeWhile (!isSign ·))
  let offset ← readOffset? (cs.dropWhile (!isSign ·))
  guard (t.isWhole || offset.isSome)
  pure (t, offset)

/-- How many bytes the character has that starts with a byte. -/
def charWidth (c : Char) : Nat :=
  if c.toNat < 0x80 then 1 else if c.toNat < 0xE0 then 2 else if c.toNat < 0xF0 then 3 else 4

/-- The date, the time of day and the offset of a written moment. -/
def written? (cs : List Char) : Option (WrittenDate × TimeParts × Option Int) := do
  let length := dateLength cs
  let date ← readDate? length cs
  match cs.drop length with
  | [] => pure (date, ⟨[], 0, true⟩, none)
  | c :: rest => pure (date, ← readTime? (rest.drop (charWidth c - 1)))

/-- The moment of a date, a time of day and an offset, which stays below a day. Faults are looked
for in the offset first, then in the date. -/
def ofWritten (date : WrittenDate) (time : TimeParts) (offset : Option Int) :
    Except Fault Moment := do
  match offset with
  | some micros => if microsPerDay ≤ micros.natAbs then throw (.offset micros)
  | none => pure ()
  let date ← date.date
  if 23 < time.values.getD 0 0 then throw .hour
  if 59 < time.values.getD 1 0 then throw .minute
  if 59 < time.values.getD 2 0 then throw .second
  pure ⟨date.midnight + (time.seconds * microsPerSecond + time.micros : Nat), offset⟩

/-- The bytes of code points. -/
def bytes? (ns : List Nat) : Option (List Char) :=
  if ns.any isSurrogate then none else some ((ns.flatMap utf8Bytes).map Char.ofNat)

/-- The places where a time may begin. A surrogate at the first of them that holds one is as good
as a `T`. -/
def withMark (ns : List Nat) : List Nat :=
  match [7, 8, 10].find? fun i => (ns[i]?).any isSurrogate with
  | some i => ns.set i 'T'.toNat
  | none => ns

/-- Reads a moment. -/
def read (s : String) : Except Fault Moment :=
  match (bytes? (withMark (points s))).bind written? with
  | some (date, time, offset) => ofWritten date time offset
  | none => .error .unreadable

end Targeting.Moment

namespace Targeting

/-- Reads a date by month or by week, of as many bytes as such a date may have. -/
def Date.read (s : String) : Except Moment.Fault Date :=
  let written := (Moment.bytes? (Text.points s)).bind fun cs =>
    if [7, 8, 10].contains cs.length then Moment.readDate? cs.length cs else none
  (written.elim (.error .unreadable) .ok) >>= Moment.WrittenDate.date

end Targeting
