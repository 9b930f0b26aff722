import Targeting.Calendar.DateReader
import Targeting.Json.Value

/-!
What is wrong with loosely typed input. Reading a record goes on after the first issue, so that
all of them are reported, in the order of the record's fields.
-/

namespace Targeting

open Number

inductive Issue.Cause where
  | missing
  | notObject
  | notList
  /-- Not an object, where only an object will do. -/
  | notRecord
  | notText
  /-- Text that has no bytes. -/
  | unencodable
  | notOneOf (choices : List String)
  | notNumber
  | unreadableNumber
  | notInteger
  | unreadableInteger
  | fractionalInteger
  | oversizedInteger
  | infiniteInteger
  | notBool
  | unreadableBool
  | badDate (error : DateError)
  | malformedJson
  /-- A value of the right kind that a rule refuses, with the words of the rule. -/
  | refused (rule : String)
  deriving DecidableEq, Repr

/-- A cause and the place where it was found, outermost name first. -/
structure Issue where
  path : List String
  cause : Issue.Cause
  deriving DecidableEq, Repr

namespace Issue

def quotedChoices (choices : List String) : String :=
  " or ".intercalate (choices.map fun choice => "'" ++ choice ++ "'")

def Cause.message : Cause → String
  | .missing => "Field required"
  | .notObject => "Input should be a valid dictionary or object to extract fields from"
  | .notList => "Input should be a valid list"
  | .notRecord => "Input should be a valid dictionary"
  | .notText => "Input should be a valid string"
  | .unencodable =>
      "Input should be a valid string, unable to parse raw data as a unicode string"
  | .notOneOf choices => "Input should be " ++ quotedChoices choices
  | .notNumber => "Input should be a valid number"
  | .unreadableNumber => "Input should be a valid number, unable to parse string as a number"
  | .notInteger => "Input should be a valid integer"
  | .unreadableInteger => "Input should be a valid integer, unable to parse string as an integer"
  | .fractionalInteger => "Input should be a valid integer, got a number with a fractional part"
  | .oversizedInteger => "Unable to parse input string as an integer, exceeded maximum size"
  | .infiniteInteger => "Input should be a finite number"
  | .notBool => "Input should be a valid boolean"
  | .unreadableBool => "Input should be a valid boolean, unable to interpret input"
  | .badDate .wrongKind => "Input should be a valid date"
  | .badDate (.unreadable fault) => "Input should be a valid date or datetime, " ++ fault.message
  | .badDate .inexact =>
      "Datetimes provided to dates should have zero time - e.g. be exact dates"
  | .badDate .yearZero =>
      "Input should be a valid date in the format YYYY-MM-DD, year 0 is out of range"
  | .malformedJson => "JSON decode error"
  | .refused rule => "Value error, " ++ rule

/-- The machine-readable name of a cause. -/
def Cause.code : Cause → String
  | .missing => "missing"
  | .notObject => "model_attributes_type"
  | .notList => "list_type"
  | .notRecord => "dict_type"
  | .notText => "string_type"
  | .unencodable => "string_unicode"
  | .notOneOf _ => "enum"
  | .notNumber => "float_type"
  | .unreadableNumber => "float_parsing"
  | .notInteger => "int_type"
  | .unreadableInteger => "int_parsing"
  | .fractionalInteger => "int_from_float"
  | .oversizedInteger => "int_parsing_size"
  | .infiniteInteger => "finite_number"
  | .notBool => "bool_type"
  | .unreadableBool => "bool_parsing"
  | .badDate .wrongKind => "date_type"
  | .badDate (.unreadable _) => "date_from_datetime_parsing"
  | .badDate .inexact => "date_from_datetime_inexact"
  | .badDate .yearZero => "date_parsing"
  | .malformedJson => "json_invalid"
  | .refused _ => "value_error"

def field (i : Issue) : String := ".".intercalate i.path

def within (name : String) (i : Issue) : Issue := ⟨name :: i.path, i.cause⟩

/-- The written form of an issue. -/
def toJson (i : Issue) : Json :=
  .object [("field", .text i.field), ("message", .text i.cause.message),
    ("type", .text i.cause.code)]

end Issue

/-- The outcome of reading input. -/
abbrev Reading (α : Type) := Except (List Issue) α

namespace Reading

def pure {α : Type} (a : α) : Reading α := .ok a

/-- Applies a function that was read to an argument that was read; issues of both are kept. -/
def ap {α β : Type} (f : Reading (α → β)) (x : Reading α) : Reading β :=
  match f, x with
  | .ok f, .ok a => .ok (f a)
  | .ok _, .error e => .error e
  | .error e, .ok _ => .error e
  | .error e, .error e' => .error (e ++ e')

/-- A value read in a named place. -/
def named {α : Type} (name : String) (result : Except Issue.Cause α) : Reading α :=
  result.mapError fun cause => [⟨[name], cause⟩]

def within {α : Type} (name : String) (r : Reading α) : Reading α :=
  r.mapError fun issues => issues.map (·.within name)

/-- Reads the items of a list, each in a place named by its index. -/
def items {α : Type} (read : Json → Reading α) : Nat → List Json → Reading (List α)
  | _, [] => .ok []
  | index, x :: rest =>
      ap ((within (digitText index) (read x)).map List.cons) (items read (index + 1) rest)

end Reading

end Targeting
