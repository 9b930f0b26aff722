import Targeting.Number.Amount
import Targeting.Number.Decimal

/-!
Loosely typed values, as they arrive from a dashboard or lie in a stored row. Whole numbers and
binary numbers are kept apart, and an object keeps its fields in order.
-/

namespace Targeting

open Number

inductive Json where
  | null
  | bool (b : Bool)
  | integer (n : Int)
  | real (x : Binary64)
  | text (s : String)
  | list (items : List Json)
  | object (fields : List (String × Json))
  deriving Repr

namespace Json

instance : Inhabited Json := ⟨.null⟩

/-- The value of a field, if the object has the field. -/
def lookup? (fields : List (String × Json)) (name : String) : Option Json :=
  (fields.find? fun (key, _) => key == name).map Prod.snd

/-- The value of a field of an object; `none` for a missing field or another kind of value. -/
def field? (name : String) : Json → Option Json
  | .object fields => lookup? fields name
  | _ => none

/-- Sets a field: a later value takes the place of an earlier one. -/
def setField (fields : List (String × Json)) (name : String) (value : Json) :
    List (String × Json) :=
  if fields.any (fun (key, _) => key == name) then
    fields.map fun (key, old) => if key == name then (key, value) else (key, old)
  else fields ++ [(name, value)]

def isNull : Json → Bool
  | .null => true
  | _ => false

def isText : Json → Bool
  | .text _ => true
  | _ => false

def ofText? : Option String → Json
  | none => .null
  | some s => .text s

def ofNat (n : Nat) : Json := .integer n

def texts (items : List String) : Json := .list (items.map .text)

/-- Empty text, zero, false, null and empty collections count as nothing. -/
def isNothing : Json → Bool
  | .null => true
  | .bool b => !b
  | .integer n => n == 0
  | .real x => x.isZero
  | .text s => s.isEmpty
  | .list items => items.isEmpty
  | .object fields => fields.isEmpty

mutual

/-- The texts within a value, in order. -/
def leafTexts : Json → List String
  | .text s => [s]
  | .list items => itemTexts items
  | .object fields => fieldTexts fields
  | _ => []

def itemTexts : List Json → List String
  | [] => []
  | item :: rest => leafTexts item ++ itemTexts rest

def fieldTexts : List (String × Json) → List String
  | [] => []
  | (_, value) :: rest => leafTexts value ++ fieldTexts rest

end

/-- A number or a truth value as an amount. -/
def amount? : Json → Option Amount
  | .bool b => some (.whole (if b then 1 else 0))
  | .integer n => some (.whole n)
  | .real x => some (.real x)
  | _ => none

end Json

end Targeting
