import Targeting.Audience.ErrorKind
import Targeting.Calendar.Moment

/-!
Problem details: the one form in which the service tells a client that a request failed. A
problem has a code for programs, a title and a detail for people, and the id of the request.
-/

namespace Targeting

inductive ErrorCode where
  | unauthorized
  | invalid
  | notFound
  | segmentNotFound
  | campaignNotFound
  | resolutionFailed
  | storeError
  | storeTimeout
  | internal
  | unavailable
  deriving DecidableEq, Repr

namespace ErrorCode

def all : List ErrorCode :=
  [.unauthorized, .invalid, .notFound, .segmentNotFound, .campaignNotFound, .resolutionFailed,
    .storeError, .storeTimeout, .internal, .unavailable]

def text : ErrorCode → String
  | .unauthorized => "AUTH_001"
  | .invalid => "VAL_001"
  | .notFound => "RES_001"
  | .segmentNotFound => "RES_002"
  | .campaignNotFound => "RES_003"
  | .resolutionFailed => "AUD_001"
  | .storeError => "EXT_001"
  | .storeTimeout => "EXT_002"
  | .internal => "SRV_001"
  | .unavailable => "SRV_002"

def ofText? (text : String) : Option ErrorCode :=
  all.find? fun c => c.text == text

/-- The words for a text that is no code. -/
def unknownMessage (text : Json) : String :=
  text.innerLabel ++ " is not a valid ErrorCode"

/-- The reference of a problem's type. -/
def reference (c : ErrorCode) : String :=
  "/problems/" ++ String.ofList (c.text.toList.map fun x => if x = '_' then '-' else x.toLower)

end ErrorCode

namespace Problem

/-- The title that statuses without one of their own share. -/
def otherTitle : String := "Error"

def statusTitle (status : Int) : String :=
  match status with
  | 400 => "Bad Request"
  | 401 => "Unauthorized"
  | 404 => "Not Found"
  | 422 => "Validation Error"
  | 500 => "Internal Server Error"
  | 503 => "Service Unavailable"
  | 504 => "Gateway Timeout"
  | _ => otherTitle

end Problem

structure Problem where
  title : String
  status : Int
  detail : String
  /-- The path of the request. -/
  location : Option String
  code : ErrorCode
  timestamp : String
  traceId : String
  errors : Option Json

namespace Problem

/-- All members of a problem; absent ones are null. -/
def members (p : Problem) : List (String × Json) :=
  [("type", .text p.code.reference), ("title", .text p.title), ("status", .integer p.status),
    ("detail", .text p.detail), ("instance", .ofText? p.location), ("code", .text p.code.text),
    ("timestamp", .text p.timestamp), ("trace_id", .text p.traceId),
    ("errors", p.errors.getD .null)]

/-- The written problem leaves out what is absent. -/
def toJson (p : Problem) : Json :=
  .object (p.members.filter fun (_, value) => !value.isNull)

/-- A problem under the title of its status. -/
def ofStatus (status : Int) (code : ErrorCode) (detail : String) (now : Moment)
    (traceId : String) : Problem :=
  ⟨statusTitle status, status, detail, none, code, now.zuluText, traceId, none⟩

/-- Nothing of a kind is there under an id. -/
def missingDetail (resource id : String) : String :=
  resource ++ " with ID " ++ id ++ " was not found"

def credentialsDetail : String := "Could not validate credentials"

end Problem

/-- The status and code of a kind of error that has its own. -/
def ErrorKind.answer? : ErrorKind → Option (Nat × ErrorCode)
  | .segmentNotFound => some (404, .segmentNotFound)
  | .campaignNotFound => some (404, .campaignNotFound)
  | .storeTimeout => some (504, .storeTimeout)
  | .store => some (503, .storeError)
  | .resolution => some (503, .resolutionFailed)
  | _ => none

/-- The status and code of a kind of error: its own, or else those of what it refines. -/
def ErrorKind.answer (kind : ErrorKind) : Nat × ErrorCode :=
  (kind.lineage.findSome? answer?).getD (500, .internal)

end Targeting
