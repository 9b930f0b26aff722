import Targeting.Calendar.Window
import Targeting.Condition.Basic
import Targeting.Condition.Rejection
import Targeting.Formula.Basic

/-!
The meaning of one condition: a formula over the subscriber's columns, or the cause for which it
has none. The category decides which columns are looked at, the operator which slots have to be
filled.
-/

namespace Targeting

open Number Text

namespace Condition

/-- The text of the value slot, which must not be blank. -/
def filledValue (c : Condition) (operator : Operator) : Except Rejection.Cause String :=
  match c.value with
  | some value => if isBlank value then .error (.missingValue operator) else .ok value
  | none => .error (.missingValue operator)

/-- The moment at which the window of the condition begins. -/
def cutoff (c : Condition) (operator : Operator) (now : Moment) :
    Except Rejection.Cause Moment :=
  match c.number, c.unit with
  | some number, some unit =>
      if isBlank unit then .error (.missingWindow operator)
      else if !number.isFinite then .error .infiniteNumber
      else if number.isNegative then .error .negativeNumber
      else
        match WindowUnit.ofName? (lower (trim unit)) with
        | none => .error (.unknownUnit unit)
        | some u =>
            match now.daysBack? (u.span number) with
            | none => .error (.windowOutOfRange number unit)
            | some moment => .ok moment
  | _, _ => .error (.missingWindow operator)

/-- The beginning of the condition's date, in universal time. -/
def boundary (c : Condition) (operator : Operator) : Except Rejection.Cause Moment :=
  match c.date with
  | some date => .ok (.ofInstant date.midnight)
  | none => .error (.missingDate operator)

/-- A window reaches from its cutoff on; everything before the cutoff is more than that ago. -/
def dateFormula (c : Condition) (column : TimeColumn) (now : Moment) (operator : Operator) :
    Except Rejection.Cause Formula :=
  match operator with
  | .before => (c.boundary operator).map fun bound => .test (.time column .before bound)
  | .after => (c.boundary operator).map fun bound => .test (.time column .after bound)
  | .moreThanAgo => (c.cutoff operator now).map fun bound => .test (.time column .before bound)
  | _ => (c.cutoff operator now).map fun bound => .test (.time column .since bound)

def textFormula (c : Condition) (column : TextColumn) (operator : Operator) :
    Except Rejection.Cause Formula :=
  match operator with
  | .isNull => .ok (.test (.absent column))
  | .isNotNull => .ok (.test (.present column))
  | .contains => (c.filledValue operator).map fun value => .test (.text column .holds value)
  | .equal => (c.filledValue operator).map fun value => .test (.text column .same value)
  | _ => (c.filledValue operator).map fun value => .test (.text column .differs value)

def deviceFormula (c : Condition) (operator : Operator) : Except Rejection.Cause Formula :=
  match operator with
  | .isMobile => .ok (.test (.mobile true))
  | .isDesktop => .ok (.test (.mobile false))
  | _ => c.textFormula .device operator

/-- A domain as the end of an address. -/
def addressEnd (domain : String) : String :=
  if domain.toList.head? = some '@' then domain else "@" ++ domain

def emailFormula (c : Condition) (operator : Operator) : Except Rejection.Cause Formula :=
  match operator with
  | .contains => c.textFormula .email operator
  | .equal =>
      (c.filledValue operator).map fun value => .test (.text .email .endsWith (addressEnd value))
  | _ =>
      (c.filledValue operator).map fun value =>
        .test (.text .email .endsOtherwise (addressEnd value))

/-- The columns of the place slots that are filled, with what they hold. -/
def places (c : Condition) : List (TextColumn × String) :=
  [(.country, c.country), (.region, c.region), (.city, c.city)].filterMap fun (column, slot) =>
    match slot with
    | some place => if isBlank place then none else some (column, place)
    | none => none

/-- A place is denied as a whole: it is enough that one of its parts differs. -/
def placeFormula (operator : Operator) (first : TextColumn × String) :
    List (TextColumn × String) → Formula
  | [] =>
      .test (.text first.1 (if operator = .equal then .same else .differs) first.2)
  | second :: rest =>
      let same (p : TextColumn × String) : Formula := .test (.text p.1 .same p.2)
      let place := Formula.all (same first) ((second :: rest).map same)
      if operator = .equal then place else .negation place

def locationFormula (c : Condition) (operator : Operator) : Except Rejection.Cause Formula :=
  match operator with
  | .contains =>
      (c.filledValue operator).map fun value =>
        let holds (column : TextColumn) : Formula := .test (.text column .holds value)
        .any (holds .country) [holds .city, holds .region]
  | _ =>
      match c.places with
      | [] => .error (.missingPlace operator)
      | first :: rest => .ok (placeFormula operator first rest)

/-- The formula of an operator that the category accepts. -/
def categoryFormula (c : Condition) (now : Moment) (category : Category) (operator : Operator) :
    Except Rejection.Cause Formula :=
  match category with
  | .subscribed => c.dateFormula .subscribedAt now operator
  | .lastSeen => c.dateFormula .lastSeenAt now operator
  | .location => c.locationFormula operator
  | .deviceType => c.deviceFormula operator
  | .browser => c.textFormula .browser operator
  | .operatingSystem => c.textFormula .os operator
  | .language => c.textFormula .language operator
  | .emailDomain => c.emailFormula operator
  | .referrer => c.textFormula .referrer operator

/-- Category first, then kind, operator and slots: the first fault found is the cause. -/
def judge (c : Condition) (now : Moment) : Except Rejection.Cause Formula :=
  let key := categoryKey c.category
  if key = "" then .error .blankCategory
  else if c.kind = .action then .error .actionBased
  else
    match Category.ofKey? key with
    | none => .error (.unknownCategory key)
    | some category =>
        let written := operatorKey c.operator
        if written = "" then .error .blankOperator
        else
          match category.operator? written with
          | none => .error (.illegalOperator category c.operator)
          | some operator => c.categoryFormula now category operator

/-- The formula of a condition, or its rejection under the normalized category. -/
def formula (c : Condition) (now : Moment) : Except Rejection Formula :=
  (c.judge now).mapError fun cause => ⟨c.id, categoryKey c.category, cause⟩

end Condition

end Targeting
