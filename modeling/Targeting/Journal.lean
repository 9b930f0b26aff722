import Targeting.Condition.Rejection
import Targeting.Json.Label

/-!
What is worth telling about a run. An event is kept as what happened; its level, its words and
the details that go with it are read off the event.
-/

namespace Targeting

open Number

inductive Level where
  | info
  | warning
  | error
  deriving DecidableEq, Repr

def Level.name : Level → String
  | .info => "INFO"
  | .warning => "WARNING"
  | .error => "ERROR"

inductive Event where
  | conditionSkipped (segmentId : Option String) (rejection : Rejection)
  | rowMalformed (segmentId conditionId category : Json)
  | categoriesUnsupported (keys : List String)
  | estimated (count compiled skipped : Nat)
  | estimateFailed (merchantId detail errorType : String)
  | queryTimedOut (operation : String) (seconds : Binary64)
  | queryFailed (operation label : String)
  | segmentInactive (segmentId : String)
  | segmentResolved (segmentId : String) (subscribers tokens : Nat)
  | nothingRequested
  | segmentMissing (segmentId : String)
  | segmentFailed (segmentId detail errorType : String)
  | segmentCrashed (segmentId errorType : String)
  | audienceMerged (contributions segments unique : Nat)
  | recounted (segments : Nat) (merchantId : String)
  | recountFailed (segmentId detail : String)
  | querySlow (milliseconds : Binary64) (parameters : Nat) (statement : String)
  | tokenRefused
  | problemRaised (status : Nat) (code detail path : String)
  | audienceProblem (status : Nat) (errorType detail path : String)
  | unhandled (errorType path : String)
  | storeUnavailable (label : String)
  | startedWithoutStore

namespace Event

def level : Event → Level
  | .estimated .. | .segmentResolved .. | .nothingRequested | .audienceMerged ..
  | .recounted .. => .info
  | .conditionSkipped .. | .rowMalformed .. | .categoriesUnsupported .. | .segmentInactive ..
  | .segmentMissing .. | .querySlow .. | .tokenRefused | .problemRaised ..
  | .startedWithoutStore => .warning
  | .audienceProblem status .. => if status < 500 then .warning else .error
  | .estimateFailed .. | .queryTimedOut .. | .queryFailed .. | .segmentFailed ..
  | .segmentCrashed .. | .recountFailed .. | .unhandled .. | .storeUnavailable .. => .error

/-- Statements are cut after this many characters. -/
def statementLimit : Nat := 200

def cutStatement (statement : String) : String :=
  let ns := Text.points statement
  if ns.length ≤ statementLimit then statement
  else Text.ofPoints (ns.take statementLimit) ++ "..."

def message : Event → String
  | .conditionSkipped segmentId rejection =>
      "Skipping condition " ++ rejection.conditionId ++ " of segment "
        ++ (Json.ofText? segmentId).label ++ ": " ++ rejection.reason
  | .rowMalformed segmentId conditionId _ =>
      "Skipping malformed condition " ++ conditionId.label ++ " of segment " ++ segmentId.label
  | .categoriesUnsupported keys => "Unsupported categories: " ++ ", ".intercalate keys
  | .estimated count compiled skipped =>
      "Estimated " ++ digitText count ++ " subscribers (" ++ digitText compiled
        ++ " conditions compiled, " ++ digitText skipped ++ " skipped)"
  | .estimateFailed merchantId detail _ =>
      "Estimation failed for merchant " ++ merchantId ++ ": " ++ detail
  | .queryTimedOut operation seconds =>
      "Subscriber store " ++ operation ++ " timed out after " ++ seconds.fixed 1 ++ "s"
  | .queryFailed operation label => "Subscriber store " ++ operation ++ " failed: " ++ label
  | .segmentInactive segmentId =>
      "Segment " ++ segmentId ++ " is inactive, resolving to an empty audience"
  | .segmentResolved segmentId subscribers tokens =>
      "Resolved segment " ++ segmentId ++ ": " ++ digitText subscribers ++ " subscribers, "
        ++ digitText tokens ++ " tokens"
  | .nothingRequested => "No segments requested, audience is empty"
  | .segmentMissing segmentId => "Segment " ++ segmentId ++ " not found, skipping"
  | .segmentFailed segmentId detail _ => "Resolving segment " ++ segmentId ++ " failed: " ++ detail
  | .segmentCrashed segmentId _ => "Unexpected error resolving segment " ++ segmentId
  | .audienceMerged contributions segments unique =>
      digitText contributions ++ " contributions across " ++ digitText segments ++ " segments, "
        ++ digitText unique ++ " unique"
  | .recounted segments merchantId =>
      "Recalculated " ++ digitText segments ++ " segments for merchant " ++ merchantId
  | .recountFailed segmentId detail =>
      "Recalculating segment " ++ segmentId ++ " failed: " ++ detail
  | .querySlow milliseconds parameters statement =>
      "Slow query (" ++ milliseconds.fixed 0 ++ "ms, " ++ digitText parameters ++ " params): "
        ++ cutStatement statement
  | .tokenRefused => "JWT validation failed"
  | .problemRaised _ code detail _ => "APIException: " ++ code ++ " - " ++ detail
  | .audienceProblem _ errorType detail path => errorType ++ " on " ++ path ++ ": " ++ detail
  | .unhandled errorType _ => "Unhandled exception: " ++ errorType
  | .storeUnavailable label => "Database initialization failed: " ++ label
  | .startedWithoutStore => "App starting without database - audience endpoints will fail"

/-- The named details of an event: segment, condition, category, kind of error, merchant, status
and path, in this order. -/
def details : Event → List (String × Json)
  | .conditionSkipped segmentId rejection =>
      [("segment_id", .ofText? segmentId), ("condition_id", .text rejection.conditionId),
        ("category", .text rejection.category), ("error_type", .text rejection.kind.label)]
  | .rowMalformed segmentId conditionId category =>
      [("segment_id", segmentId), ("condition_id", conditionId), ("category", category)]
  | .estimateFailed merchantId _ errorType =>
      [("error_type", .text errorType), ("merchant_id", .text merchantId)]
  | .segmentInactive segmentId | .segmentResolved segmentId _ _ | .segmentMissing segmentId =>
      [("segment_id", .text segmentId)]
  | .segmentFailed segmentId _ errorType | .segmentCrashed segmentId errorType =>
      [("segment_id", .text segmentId), ("error_type", .text errorType)]
  | .problemRaised status _ _ path | .audienceProblem status _ _ path =>
      [("status_code", .ofNat status), ("path", .text path)]
  | .unhandled _ path => [("path", .text path)]
  | _ => []

def toJson (e : Event) : Json :=
  .list [.text e.level.name, .text e.message, .object e.details]

end Event

end Targeting
