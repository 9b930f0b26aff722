import Targeting.Calendar.Window
import Targeting.Crash
import Targeting.Number.Amount
import Targeting.Number.Numeral

/-!
The days of a loosely typed number of units. Whole numbers are multiplied exactly; text is
repeated as often as the unit has days before it is converted to a number.
-/

namespace Targeting

open Number

/-- The unit that a value names. -/
def WindowUnit.ofJson (unit : Json) : Except Crash WindowUnit :=
  let unhashable := Crash.kind ("unhashable type: '" ++ unit.kindName ++ "'")
  match unit with
  | .list _ | .object _ => .error unhashable
  | .text name =>
      match ofName? name with
      | some u => .ok u
      | none => .error ⟨"KeyError", some unit.innerLabel⟩
  | _ => .error ⟨"KeyError", some unit.innerLabel⟩

/-- A text some times over. -/
def repeated (times : Nat) (s : String) : String :=
  String.ofList (List.replicate times s.toList).flatten

/-- The days of a number of units. -/
def WindowUnit.spanOf (unit number : Json) : Except Crash Binary64 := do
  let u ← ofJson unit
  let whole (n : Int) : Except Crash Binary64 :=
    match (Amount.whole (n * u.dayCount)).toReal? with
    | some x => .ok x
    | none => .error .tooLarge
  match number with
  | .integer n => whole n
  | .bool b => whole (if b then 1 else 0)
  | .real x => pure (u.span x)
  | .text s =>
      let text := repeated u.dayCount s
      match convertNumber? text with
      | some x => pure x
      | none => throw (.value ("could not convert string to float: " ++ quotedText text))
  | .list _ => throw (.kind "float() argument must be a string or a real number, not 'list'")
  | .null | .object _ => throw (.operands "*" number (.integer 0))

end Targeting
