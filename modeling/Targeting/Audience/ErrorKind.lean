import Targeting.Audience.Failure
import Targeting.Condition.Rejection
import Targeting.Json.Label

/-!
The kinds of error around audiences and how they refine one another: a timeout of the store is an
error of the store, and all of them are audience errors.
-/

namespace Targeting

open Number

inductive ErrorKind where
  | audience
  | condition
  | unsupportedCategory
  | unsupportedOperator
  | incomplete
  | segmentNotFound
  | campaignNotFound
  | store
  | storeTimeout
  | resolution
  deriving DecidableEq, Repr

namespace ErrorKind

def all : List ErrorKind :=
  [.audience, .condition, .unsupportedCategory, .unsupportedOperator, .incomplete,
    .segmentNotFound, .campaignNotFound, .store, .storeTimeout, .resolution]

def name : ErrorKind → String
  | .audience => "AudienceError"
  | .condition => "ConditionError"
  | .unsupportedCategory => "UnsupportedCategory"
  | .unsupportedOperator => "UnsupportedOperator"
  | .incomplete => "IncompleteCondition"
  | .segmentNotFound => "SegmentNotFound"
  | .campaignNotFound => "CampaignNotFound"
  | .store => "StoreError"
  | .storeTimeout => "StoreTimeout"
  | .resolution => "AudienceResolutionError"

def ofName? (name : String) : Option ErrorKind :=
  all.find? fun k => k.name == name

/-- A kind and the kinds that it refines, the closest first. -/
def lineage : ErrorKind → List ErrorKind
  | .audience => [.audience]
  | .unsupportedCategory => [.unsupportedCategory, .condition, .audience]
  | .unsupportedOperator => [.unsupportedOperator, .condition, .audience]
  | .incomplete => [.incomplete, .condition, .audience]
  | .storeTimeout => [.storeTimeout, .store, .audience]
  | kind => [kind, .audience]

/-- Several values side by side. -/
def labels : List Json → String
  | [] => ""
  | [value] => value.label
  | values => "(" ++ ", ".intercalate (Json.itemLabels values) ++ ")"

/-- What an error of a kind is made of: the name under which that is said, the arguments that it
needs, and how many more it takes. -/
structure Making where
  owner : String
  needed : List String
  more : Nat

/-- How errors of a kind are made; those of the widest kind are made of anything. -/
def making? : ErrorKind → Option Making
  | .audience => none
  | .condition | .unsupportedCategory | .unsupportedOperator | .incomplete =>
      some ⟨"ConditionError", ["condition_id", "category", "reason"], 0⟩
  | .segmentNotFound => some ⟨"SegmentNotFound", ["segment_id"], 0⟩
  | .campaignNotFound => some ⟨"CampaignNotFound", ["campaign_id"], 0⟩
  | .store => some ⟨"StoreError", ["detail"], 1⟩
  | .storeTimeout => some ⟨"StoreTimeout", ["timeout_seconds", "operation"], 0⟩
  | .resolution => some ⟨"AudienceResolutionError", ["detail"], 1⟩

/-- Why no error can be made of some values: they are too few or too many. -/
def Making.crash? (m : Making) (values : List Json) : Option Crash :=
  let needed := m.needed.length
  if values.length < needed then
    some (.missingArguments m.owner (m.needed.drop values.length))
  else if needed + m.more < values.length then
    some (.extraArguments m.owner (needed + 1) (needed + m.more + 1) (values.length + 1))
  else none

/-- Seconds that can be displayed. -/
def seconds (value : Json) : Except Crash Binary64 :=
  match value with
  | .text _ => .error (.value "Unknown format code 'g' for object of type 'str'")
  | _ =>
      match value.amount? with
      | some a => (a.toReal?).elim (.error .tooLarge) .ok
      | none =>
          .error (.kind ("unsupported format string passed to " ++ value.kindName
            ++ ".__format__"))

/-- The words of an error of a kind about given values. -/
def describe (kind : ErrorKind) (values : List Json) : Except Crash String :=
  match kind.making?.bind (·.crash? values) with
  | some c => .error c
  | none =>
      match kind, values with
      | .condition, [id, category, reason] | .unsupportedCategory, [id, category, reason]
      | .unsupportedOperator, [id, category, reason] | .incomplete, [id, category, reason] =>
          .ok (Rejection.messageOf id.label (if category.isNothing then "" else category.label)
            reason.label)
      | .segmentNotFound, [id] => .ok (Failure.notFoundDetail "Segment" id.label)
      | .campaignNotFound, [id] => .ok (Failure.notFoundDetail "Campaign" id.label)
      | .storeTimeout, [value, operation] =>
          (seconds value).map (Failure.timeoutDetail · operation.label)
      | .store, detail :: _ | .resolution, detail :: _ => .ok detail.label
      | _, values => .ok (labels values)

/-- What an error of a union says of single segments; only such an error says anything. -/
def failures? (kind : ErrorKind) (values : List Json) : Option Json :=
  match kind, values with
  | .resolution, [_, failures] => some (if failures.isNothing then .object [] else failures)
  | .resolution, _ => some (.object [])
  | _, _ => none

end ErrorKind

/-- The kind of a failure, where it is one of the kinds that are about audiences. -/
def Failure.kind? : Failure → Option ErrorKind
  | .segmentNotFound _ => some .segmentNotFound
  | .campaignNotFound _ => some .campaignNotFound
  | .storeTimeout _ _ => some .storeTimeout
  | .storeError _ _ => some .store
  | .resolution _ _ => some .resolution
  | .negativeConcurrency | .noSessions | .crash _ => none

end Targeting
