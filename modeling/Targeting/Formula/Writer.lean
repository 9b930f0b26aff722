import Targeting.Formula.Basic
import Targeting.Json.Value

/-!
The written form of a formula. A conjunction is one list of its clauses, however its formulas
were put together, and so is a disjunction. Text that is searched for is written escaped.
-/

namespace Targeting

open Text

/-- Text as the store receives it in a search. -/
def escapedText (value : String) : String :=
  String.ofList (escapeWildcards value.toList)

namespace Test

def columnJson (name : String) : Json := .object [("col", .text name)]

def valueJson (value : Json) : Json := .object [("val", value)]

def loweredJson (operand : Json) : Json := .object [("lower", operand)]

def comparisonJson (name : String) (left right : Json) : Json :=
  .object [("op", .text name), ("left", left), ("right", right)]

def searchJson (name column value : String) : Json :=
  .object [("op", .text name), ("left", columnJson column),
    ("right", valueJson (.text (escapedText value))),
    ("escape", .text (String.ofList [escapeChar]))]

def equalityJson (name column value : String) : Json :=
  comparisonJson name (loweredJson (columnJson column)) (loweredJson (valueJson (.text value)))

def timeName : TimeRelation → String
  | .before => "lt"
  | .after => "gt"
  | .since => "ge"

def textJson (column : TextColumn) (value : String) : TextRelation → Json
  | .same => equalityJson "eq" column.name value
  | .differs => equalityJson "ne" column.name value
  | .holds => searchJson "icontains" column.name value
  | .endsWith => searchJson "iendswith" column.name value
  | .endsOtherwise => searchJson "not_iendswith" column.name value

def toJson : Test → Json
  | .belongsTo merchantId =>
      comparisonJson "eq" (columnJson "merchant_id") (valueJson (.text merchantId))
  | .active => comparisonJson "is" (columnJson "is_active") (valueJson (.bool true))
  | .mobile flag => comparisonJson "is" (columnJson "is_mobile") (valueJson (.bool flag))
  | .text column relation value => textJson column value relation
  | .time column relation bound =>
      comparisonJson (timeName relation) (columnJson column.name)
        (.object [("time", .text bound.text)])
  | .absent column => comparisonJson "is" (columnJson column.name) (valueJson .null)
  | .present column => comparisonJson "is_not" (columnJson column.name) (valueJson .null)

/-- The text that a test hands to the store. -/
def boundTexts : Test → List String
  | .belongsTo merchantId => [merchantId]
  | .text _ .same value => [value]
  | .text _ .differs value => [value]
  | .text _ _ value => [escapedText value]
  | _ => []

end Test

namespace Formula

/-- A formula written on its own, as clauses of a conjunction and as clauses of a disjunction. -/
structure Written where
  alone : Json
  clausesOfAll : List Json
  clausesOfAny : List Json

def written : Formula → Written
  | .test t => ⟨t.toJson, [t.toJson], [t.toJson]⟩
  | .both a b =>
      let clauses := a.written.clausesOfAll ++ b.written.clausesOfAll
      let alone := Json.object [("and", .list clauses)]
      ⟨alone, clauses, [alone]⟩
  | .either a b =>
      let clauses := a.written.clausesOfAny ++ b.written.clausesOfAny
      let alone := Json.object [("or", .list clauses)]
      ⟨alone, [alone], clauses⟩
  | .negation a =>
      let alone := Json.object [("not", a.written.alone)]
      ⟨alone, [alone], [alone]⟩

def toJson (f : Formula) : Json := f.written.alone

/-- The text that a formula hands to the store. -/
def boundTexts : Formula → List String
  | .test t => t.boundTexts
  | .both a b => a.boundTexts ++ b.boundTexts
  | .either a b => a.boundTexts ++ b.boundTexts
  | .negation a => a.boundTexts

end Formula

end Targeting
