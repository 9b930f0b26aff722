import Targeting.Calendar.Date
import Targeting.Number.Binary64

/-!
One authored filter rule over a subscriber. Its category and operator are kept as they were
written; which of the value slots matter depends on the operator.
-/

namespace Targeting

open Number

/-- What a condition is about: a property of the subscriber, or something that they did. -/
inductive Condition.Kind where
  | action
  | property
  deriving DecidableEq, Repr

def Condition.Kind.name : Condition.Kind → String
  | .action => "action"
  | .property => "property"

/-- How a condition is joined to those before it. -/
inductive Join where
  | all
  | any
  deriving DecidableEq, Repr

def Join.name : Join → String
  | .all => "AND"
  | .any => "OR"

structure Condition where
  id : String
  kind : Condition.Kind
  category : String
  operator : String
  value : Option String
  number : Option Binary64
  date : Option Date
  unit : Option String
  country : Option String
  region : Option String
  city : Option String
  join : Option Join
  deriving DecidableEq, Repr

end Targeting
