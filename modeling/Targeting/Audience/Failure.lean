import Targeting.Crash
import Targeting.Number.Decimal

/-!
How an operation on audiences fails. A segment or a campaign may not be there for the merchant,
the store may not answer, and a union may have nothing left to stand on. What nobody expects is
kept apart, because its words must not reach everybody.
-/

namespace Targeting

open Number

inductive Failure where
  | segmentNotFound (segmentId : String)
  | campaignNotFound (campaignId : String)
  | storeTimeout (seconds : Binary64) (operation : String)
  | storeError (operation label : String)
  /-- Every one of `count` segments failed; for each, once, what went wrong. -/
  | resolution (count : Nat) (failures : List (String × String))
  | negativeConcurrency
  | noSessions
  | crash (c : Crash)
  deriving DecidableEq, Repr

namespace Failure

/-- The label under which a failure is reported. -/
def label : Failure → String
  | .segmentNotFound _ => "SegmentNotFound"
  | .campaignNotFound _ => "CampaignNotFound"
  | .storeTimeout _ _ => "StoreTimeout"
  | .storeError _ _ => "StoreError"
  | .resolution _ _ => "AudienceResolutionError"
  | .negativeConcurrency => "ValueError"
  | .noSessions => "RuntimeError"
  | .crash c => c.label

def timeoutDetail (seconds : Binary64) (operation : String) : String :=
  "Subscriber store " ++ operation ++ " timed out after " ++ seconds.display ++ "s"

def notFoundDetail (kind id : String) : String := kind ++ " " ++ id ++ " was not found"

/-- The words of a failure. -/
def message? : Failure → Option String
  | .segmentNotFound id => some (notFoundDetail "Segment" id)
  | .campaignNotFound id => some (notFoundDetail "Campaign" id)
  | .storeTimeout seconds operation => some (timeoutDetail seconds operation)
  | .storeError operation label => some ("Subscriber store " ++ operation ++ " failed: " ++ label)
  | .resolution count _ => some ("All " ++ digitText count ++ " segments failed to resolve")
  | .negativeConcurrency => some "Semaphore initial value must be >= 0"
  | .noSessions => some "resolve_audience requires a session factory"
  | .crash c => c.message?

def message (f : Failure) : String := f.message?.getD ""

/-- A failure of the store itself, which the operations around it can recover from. -/
def isOfStore : Failure → Bool
  | .storeTimeout _ _ | .storeError _ _ => true
  | _ => false

end Failure

end Targeting
