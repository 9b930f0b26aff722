import Targeting.Catalogue
import Targeting.Condition.Basic
import Targeting.Distinct
import Targeting.Journal
import Targeting.Number.Decimal
import Targeting.Text.Blank

/-!
Conditions as their authors see them: the text that a segment is shown with, the rows that are
not filled in yet, and the categories that nothing can be done with.
-/

namespace Targeting

open Text

/-- Text that is there and not empty. -/
def nonEmpty? : Option String → Option String
  | some s => if s = "" then none else some s
  | none => none

namespace Condition

/-- A row with no category or no operator yet. -/
def isUnfilled (c : Condition) : Bool :=
  isBlank c.category || isBlank c.operator

/-- The value shown for a condition: its text, else its number with the unit, else its date, else
its places from the smallest to the largest. -/
def shownValue (c : Condition) : String :=
  match nonEmpty? c.value, c.number, c.date with
  | some value, _, _ => value
  | none, some number, _ =>
      match nonEmpty? c.unit with
      | some unit => number.display ++ " " ++ unit
      | none => number.display
  | none, none, some date => date.text
  | none, none, none => ", ".intercalate ([c.city, c.region, c.country].filterMap nonEmpty?)

def shown (c : Condition) : String :=
  let text := c.category ++ " " ++ c.operator
  let value := c.shownValue
  if value = "" then text else text ++ " " ++ value

/-- Whether the catalogue knows the category and the condition is of a kind that is evaluated. -/
def isSupported (c : Condition) : Bool :=
  c.kind = .property && (Category.ofKey? (categoryKey c.category)).isSome

end Condition

namespace Criteria

/-- The conditions after the first, each behind its join. -/
def shownRest : List Condition → List String
  | [] => []
  | c :: rest =>
      match c.join with
      | some join => join.name :: c.shown :: shownRest rest
      | none => c.shown :: shownRest rest

def describe : List Condition → String
  | [] => "No conditions defined"
  | first :: rest => " ".intercalate (first.shown :: shownRest rest)

/-- The categories of the unsupported conditions, each once. -/
def unsupportedCategories (conditions : List Condition) : List String :=
  distinct ((conditions.filter (!·.isSupported)).map fun c => categoryKey c.category)

def events (conditions : List Condition) : List Event :=
  match unsupportedCategories conditions with
  | [] => []
  | keys => [.categoriesUnsupported keys]

end Criteria

end Targeting
