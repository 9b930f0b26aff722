import Targeting.Audience.Resolution
import Targeting.Distinct

/-!
The union of the audiences of several segments. Each position of the request is resolved on its
own, and what goes wrong at one position is an entry of the outcome; only when every position
fails does the whole union fail. Recipients and tokens come in the order in which they are first
seen, so that the order of the request alone decides it.
-/

namespace Targeting

inductive UnionStatus where
  | resolved
  | inactive
  | notFound
  | failed
  deriving DecidableEq, Repr

def UnionStatus.name : UnionStatus → String
  | .resolved => "resolved"
  | .inactive => "inactive"
  | .notFound => "not_found"
  | .failed => "failed"

/-- One position of a request and how its segment was resolved. -/
structure UnionEntry where
  segmentId : String
  outcome : Except Failure SegmentAudience

namespace UnionEntry

def status (e : UnionEntry) : UnionStatus :=
  match e.outcome with
  | .ok a => if a.isActive then .resolved else .inactive
  | .error (.segmentNotFound _) => .notFound
  | .error _ => .failed

def segmentName (e : UnionEntry) : Option String :=
  match e.outcome with
  | .ok a => some a.segmentName
  | .error _ => none

def members (e : UnionEntry) : List Subscriber :=
  match e.outcome with
  | .ok a => a.members
  | .error _ => []

def tokens (e : UnionEntry) : List String :=
  match e.outcome with
  | .ok a => a.tokens
  | .error _ => []

/-- The words for a failed position: those of the store, but never those of a failure that nobody
expects. -/
def failureDetail (f : Failure) : String :=
  match f with
  | .segmentNotFound _ | .storeTimeout _ _ | .storeError _ _ => f.message
  | _ => "Unexpected " ++ f.label ++ " while resolving segment"

def error (e : UnionEntry) : Option String :=
  match e.outcome with
  | .ok _ => none
  | .error f => some (failureDetail f)

def events (e : UnionEntry) : List Event :=
  match e.outcome with
  | .ok _ => []
  | .error (.segmentNotFound _) => [.segmentMissing e.segmentId]
  | .error f =>
      if f.isOfStore then [.segmentFailed e.segmentId f.message f.label]
      else [.segmentCrashed e.segmentId f.label]

end UnionEntry

/-- The audience of a request, position by position. -/
structure Audience where
  entries : List UnionEntry

namespace Audience

/-- The members of all segments one after the other. -/
def contributions (a : Audience) : List Subscriber := a.entries.flatMap (·.members)

def uniqueIds (a : Audience) : List String := distinct (a.contributions.map (·.id))

def tokens (a : Audience) : List String := distinct (a.entries.flatMap (·.tokens))

def totalRawCount (a : Audience) : Nat := a.contributions.length

/-- Every position failed; a segment that is not there or not active did not. -/
def isTotalFailure (a : Audience) : Bool := a.entries.all fun e => e.status == .failed

/-- What went wrong with each segment, by its id and in the order of the request. -/
def failures (a : Audience) : List (String × String) :=
  keyed (a.entries.filterMap fun e => e.error.map fun detail => (e.segmentId, detail))

end Audience

namespace Session

/-- Resolves every position of a request. -/
def resolveEach (s : Session) (segmentIds : List String) : Audience :=
  ⟨segmentIds.map fun id => ⟨id, (s.resolveSegment id).outcome⟩⟩

/-- What is wrong with a limit on how many segments may be resolved at a time. A limit of zero lets
nobody in, and the request would never end; this is left out. -/
def limitFailure? : Json → Option Failure
  | .integer n => if n < 0 then some .negativeConcurrency else none
  | .real x => if x.isNegative && !x.isZero then some .negativeConcurrency else none
  | .bool _ => none
  | other =>
      some (.crash (.kind ("'<' not supported between instances of '" ++ other.kindName
        ++ "' and 'int'")))

/-- Joins the audiences of a list of segments. -/
def resolveUnion (s : Session) (segmentIds : List String) : Traced Audience :=
  if segmentIds.isEmpty then ⟨[.nothingRequested], .ok ⟨[]⟩⟩
  else if let some f := limitFailure? s.concurrency then .fail f
  else
    let audience := s.resolveEach segmentIds
    let events := segmentIds.flatMap (fun id => (s.resolveSegment id).events)
      ++ audience.entries.flatMap (·.events)
    if audience.isTotalFailure then
      ⟨events, .error (.resolution segmentIds.length audience.failures)⟩
    else
      ⟨events ++ [.audienceMerged audience.totalRawCount segmentIds.length
        audience.uniqueIds.length], .ok audience⟩

end Session

end Targeting
