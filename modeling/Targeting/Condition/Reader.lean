import Targeting.Condition.Basic
import Targeting.Scalar
import Targeting.Text.Blank

/-!
Reads a condition from loose input. An authored condition names its slots in either of two
spellings and may leave any of them out; a stored row has every slot, empty ones being null.
-/

namespace Targeting

open Number Scalar Text

/-- A slot of a condition. -/
inductive Condition.Slot where
  | id
  | kind
  | category
  | operator
  | value
  | number
  | date
  | unit
  | country
  | region
  | city
  | join
  deriving DecidableEq, Repr

namespace Condition

/-- The name of a slot in a stored row. -/
def Slot.columnName : Slot → String
  | .id => "id"
  | .kind => "type"
  | .category => "category"
  | .operator => "operator"
  | .value => "value"
  | .number => "number_value"
  | .date => "date_value"
  | .unit => "date_unit"
  | .country => "location_country"
  | .region => "location_region"
  | .city => "location_city"
  | .join => "logical_operator"

/-- The name of a slot in a dashboard's message. -/
def Slot.messageName : Slot → String
  | .number => "numberValue"
  | .date => "dateValue"
  | .unit => "dateUnit"
  | .country => "locationCountry"
  | .region => "locationRegion"
  | .city => "locationCity"
  | .join => "logicalOperator"
  | slot => slot.columnName

/-- Where the slots of a condition come from: for each the name it went by, and its value unless
it was left out. -/
abbrev Source := Slot → String × Option Json

/-- The slots of an authored condition. When both spellings are given, the dashboard's wins. -/
def Source.ofFields (fields : List (String × Json)) : Source := fun slot =>
  match Json.lookup? fields slot.messageName with
  | some value => (slot.messageName, some value)
  | none =>
      match Json.lookup? fields slot.columnName with
      | some value => (slot.columnName, some value)
      | none => (slot.messageName, none)

/-- Text in which null stands for the empty text. -/
def readTextOrEmpty : Json → Except Issue.Cause String
  | .null => .ok ""
  | value => readText value

def readKind : Json → Except Issue.Cause Kind
  | .text "action" => .ok .action
  | .text "property" => .ok .property
  | .text s =>
      .error (if isEncodable s then .notOneOf ["action", "property"] else .unencodable)
  | _ => .error (.notOneOf ["action", "property"])

/-- The text in front of the first `T`. -/
def beforeTime (s : String) : String :=
  String.ofList (s.toList.takeWhile (· != 'T'))

/-- A date; the empty text stands for none. -/
def readDate : Json → Except Issue.Cause (Option Date)
  | .null => .ok none
  | .text s =>
      if s = "" then .ok none
      else if !isEncodable (beforeTime s) then .error .unencodable
      else ((DateReader.ofText (beforeTime s)).mapError .badDate).map some
  | .integer n => ((DateReader.ofInteger n).mapError .badDate).map some
  | .real x => ((DateReader.ofReal x).mapError .badDate).map some
  | _ => .error (.badDate .wrongKind)

/-- A join in any case, with blanks around it; blank text stands for none. No character beyond
ASCII has one of the letters of `AND` or `OR` alone for its upper case. -/
def readJoin : Json → Except Issue.Cause (Option Join)
  | .null => .ok none
  | .text s =>
      let key := (trimChars isBlankChar s.toList).map Char.toUpper
      if key = [] then .ok none
      else if !isEncodable s then .error .unencodable
      else if key = Join.all.name.toList then .ok (some .all)
      else if key = Join.any.name.toList then .ok (some .any)
      else .error (.notOneOf [Join.all.name, Join.any.name])
  | _ => .error (.notOneOf [Join.all.name, Join.any.name])

/-- Reads one slot, or takes the default when it was left out. -/
def readSlot {α : Type} (source : Source) (slot : Slot) (default : α)
    (read : Json → Except Issue.Cause α) : Reading α :=
  let (name, value) := source slot
  match value with
  | none => .ok default
  | some value => Reading.named name (read value)

/-- Reads every slot. A condition without an id takes `freshId`. -/
def ofSource (freshId : String) (source : Source) : Reading Condition :=
  let slot {α : Type} (slot : Slot) (default : α) (read : Json → Except Issue.Cause α) :=
    readSlot source slot default read
  Reading.pure Condition.mk
    |>.ap (slot .id freshId readText)
    |>.ap (slot .kind .property readKind)
    |>.ap (slot .category "" readTextOrEmpty)
    |>.ap (slot .operator "" readTextOrEmpty)
    |>.ap (slot .value none (orNull readText))
    |>.ap (slot .number none (orNull readNumber))
    |>.ap (slot .date none readDate)
    |>.ap (slot .unit none (orNull readText))
    |>.ap (slot .country none (orNull readText))
    |>.ap (slot .region none (orNull readText))
    |>.ap (slot .city none (orNull readText))
    |>.ap (slot .join none readJoin)

/-- Reads an authored condition. -/
def ofJson (freshId : String) : Json → Reading Condition
  | .object fields => ofSource freshId (.ofFields fields)
  | _ => .error [⟨[], .notObject⟩]

end Condition

end Targeting
