import Targeting.Catalogue
import Targeting.Number.Decimal

/-!
Why a condition has no meaning as a filter. A rejection concerns one condition only: it is left
out of the predicate and reported, and the conditions around it stay in force.
-/

namespace Targeting

open Number

inductive Rejection.Cause where
  | blankCategory
  | actionBased
  | unknownCategory (key : String)
  | blankOperator
  | illegalOperator (category : Category) (written : String)
  | missingWindow (operator : Operator)
  | infiniteNumber
  | negativeNumber
  | unknownUnit (written : String)
  | windowOutOfRange (number : Binary64) (unit : String)
  | missingDate (operator : Operator)
  | missingValue (operator : Operator)
  | missingPlace (operator : Operator)
  deriving DecidableEq, Repr

/-- The kind under which a rejection is reported. -/
inductive Rejection.Kind where
  | unsupportedCategory
  | unsupportedOperator
  | incomplete
  deriving DecidableEq, Repr

structure Rejection where
  conditionId : String
  category : String
  cause : Rejection.Cause
  deriving DecidableEq, Repr

namespace Rejection

def Kind.label : Kind → String
  | .unsupportedCategory => "UnsupportedCategory"
  | .unsupportedOperator => "UnsupportedOperator"
  | .incomplete => "IncompleteCondition"

def Cause.kind : Cause → Kind
  | .actionBased | .unknownCategory _ => .unsupportedCategory
  | .illegalOperator _ _ => .unsupportedOperator
  | .blankCategory | .blankOperator | .missingWindow _ | .infiniteNumber | .negativeNumber
  | .unknownUnit _ | .windowOutOfRange _ _ | .missingDate _ | .missingValue _
  | .missingPlace _ => .incomplete

/-- The name of an operator within single quotes. -/
def quoted (name : String) : String := "'" ++ name ++ "'"

def Cause.reason : Cause → String
  | .blankCategory => "category is required"
  | .actionBased => "action-based conditions are not supported"
  | .unknownCategory key => "unsupported condition category " ++ quoted key
  | .blankOperator => "operator is required"
  | .illegalOperator category written =>
      "unsupported " ++ category.name ++ " operator " ++ quoted written
  | .missingWindow operator => quoted operator.name ++ " requires a number and a date unit"
  | .infiniteNumber => "number must be finite"
  | .negativeNumber => "number must not be negative"
  | .unknownUnit written => "unknown date unit " ++ quoted written
  | .windowOutOfRange number unit =>
      "window of " ++ number.display ++ " " ++ unit ++ " is out of range"
  | .missingDate operator => quoted operator.name ++ " requires a date"
  | .missingValue operator => quoted operator.name ++ " requires a value"
  | .missingPlace operator => quoted operator.name ++ " requires a country, region or city"

def kind (r : Rejection) : Kind := r.cause.kind

def reason (r : Rejection) : String := r.cause.reason

/-- The words for a rejected condition. -/
def messageOf (conditionId category reason : String) : String :=
  "Condition " ++ conditionId ++ " (" ++ (if category = "" then "<blank>" else category) ++ "): "
    ++ reason

def message (r : Rejection) : String := messageOf r.conditionId r.category r.reason

end Rejection

end Targeting
