import Targeting.Json.Sameness
import Targeting.Problem
import Targeting.Scalar

/-!
Problems as programs ask for them: by named arguments of any kind. What is left out takes its
default, and the written problem is checked part by part.
-/

namespace Targeting

/-- A problem that is asked for. -/
structure Draft where
  code : ErrorCode
  status : Json
  title : Json
  detail : Json
  location : Json
  errors : Json
  /-- Headers that go with the response. -/
  headers : Json

namespace Draft

/-- The phrases of the statuses of responses. -/
def phrases : List (Int × String) :=
  [(100, "Continue"), (101, "Switching Protocols"), (102, "Processing"), (103, "Early Hints"),
    (200, "OK"), (201, "Created"), (202, "Accepted"), (203, "Non-Authoritative Information"),
    (204, "No Content"), (205, "Reset Content"), (206, "Partial Content"), (207, "Multi-Status"),
    (208, "Already Reported"), (226, "IM Used"), (300, "Multiple Choices"),
    (301, "Moved Permanently"), (302, "Found"), (303, "See Other"), (304, "Not Modified"),
    (305, "Use Proxy"), (307, "Temporary Redirect"), (308, "Permanent Redirect"),
    (400, "Bad Request"), (401, "Unauthorized"), (402, "Payment Required"), (403, "Forbidden"),
    (404, "Not Found"), (405, "Method Not Allowed"), (406, "Not Acceptable"),
    (407, "Proxy Authentication Required"), (408, "Request Timeout"), (409, "Conflict"),
    (410, "Gone"), (411, "Length Required"), (412, "Precondition Failed"),
    (413, "Request Entity Too Large"), (414, "Request-URI Too Long"),
    (415, "Unsupported Media Type"), (416, "Requested Range Not Satisfiable"),
    (417, "Expectation Failed"), (418, "I'm a Teapot"), (421, "Misdirected Request"),
    (422, "Unprocessable Entity"), (423, "Locked"), (424, "Failed Dependency"),
    (425, "Too Early"), (426, "Upgrade Required"), (428, "Precondition Required"),
    (429, "Too Many Requests"), (431, "Request Header Fields Too Large"),
    (451, "Unavailable For Legal Reasons"), (500, "Internal Server Error"),
    (501, "Not Implemented"), (502, "Bad Gateway"), (503, "Service Unavailable"),
    (504, "Gateway Timeout"), (505, "HTTP Version Not Supported"),
    (506, "Variant Also Negotiates"), (507, "Insufficient Storage"), (508, "Loop Detected"),
    (510, "Not Extended"), (511, "Network Authentication Required")]

/-- The whole number that a status counts as. -/
def statusNumber? (status : Json) : Except Crash (Option Int) := do
  match ← status.sameness with
  | .amount (.whole n) => pure (some n)
  | _ => pure none

def phraseOf (status : Json) : Except Crash String :=
  let unknown := Crash.value (status.innerLabel ++ " is not a valid HTTPStatus")
  match statusNumber? status with
  | .ok (some n) => ((phrases.find? fun (m, _) => m == n).map Prod.snd).elim (.error unknown) .ok
  | _ => .error unknown

/-- A draft in which the title and the detail are there: the status provides for them. -/
def completed (d : Draft) : Except Crash Draft := do
  let title ←
    if d.title.isNothing then
      pure (.text (((← statusNumber? d.status).map Problem.statusTitle).getD Problem.otherTitle))
    else pure d.title
  let detail ← if d.detail.isNull then (phraseOf d.status).map .text else pure d.detail
  pure { d with title := title, detail := detail }

def readText (value : Json) : Except Issue.Cause String := Scalar.readText value

def readRecord : Json → Reading Json
  | .object fields => .ok (.object fields)
  | _ => .error [⟨[], .notRecord⟩]

/-- A list of records, or nothing. -/
def readErrors : Json → Reading (Option Json)
  | .null => .ok none
  | .list items => (Reading.items readRecord 0 items).map fun records => some (.list records)
  | _ => .error [⟨[], .notList⟩]

/-- The problem of a completed draft. -/
def problem (d : Draft) (now : Moment) (traceId : Json) : Reading Problem :=
  Reading.pure (fun title status detail location traceId errors =>
      (⟨title, status, detail, location, d.code, now.zuluText, traceId, errors⟩ : Problem))
    |>.ap (Reading.named "title" (readText d.title))
    |>.ap (Reading.named "status" (Scalar.readInteger d.status))
    |>.ap (Reading.named "detail" (readText d.detail))
    |>.ap (Reading.named "instance" (Scalar.orNull readText d.location))
    |>.ap (Reading.named "trace_id" (readText traceId))
    |>.ap (Reading.within "errors" (readErrors d.errors))

end Draft

/-- The ways to ask for a problem. -/
inductive DraftKind where
  | any
  | notFound
  | unauthorized
  deriving DecidableEq, Repr

namespace DraftKind

def name : DraftKind → String
  | .any => "APIException"
  | .notFound => "NotFoundError"
  | .unauthorized => "UnauthorizedError"

def ofName? (name : String) : Option DraftKind :=
  [any, notFound, unauthorized].find? fun k => k.name == name

/-- Arguments that have to be given. -/
def needed : DraftKind → List String
  | .any => ["status_code", "code", "detail"]
  | .notFound => ["resource", "resource_id"]
  | .unauthorized => []

/-- Arguments that may be given. -/
def allowed : DraftKind → List String
  | .any => ["title", "instance", "errors", "headers"]
  | .notFound => []
  | .unauthorized => ["detail"]

/-- Why no problem can be asked for by some arguments. -/
def crash? (kind : DraftKind) (given : List (String × Json)) : Option Crash :=
  let names := given.map Prod.fst
  match names.find? fun name => !(kind.needed ++ kind.allowed).contains name with
  | some name => some (.unknownArgument kind.name name)
  | none =>
      match kind.needed.filter (!names.contains ·) with
      | [] => none
      | missing => some (.missingArguments kind.name missing)

def codeOf (value : Json) : Except Crash ErrorCode :=
  let code? : Option ErrorCode :=
    match value with
    | .text s => ErrorCode.ofText? s
    | _ => none
  code?.elim (.error (.value (ErrorCode.unknownMessage value))) .ok

/-- The draft that is asked for by named arguments. -/
def draft (kind : DraftKind) (given : List (String × Json)) : Except Crash Draft := do
  let argument (name : String) : Json := (Json.lookup? given name).getD .null
  let code ← if (Json.lookup? given "code").isSome then codeOf (argument "code") else pure .internal
  if let some c := kind.crash? given then throw c
  match kind with
  | .any =>
      Draft.completed ⟨code, argument "status_code", argument "title", argument "detail",
        argument "instance", argument "errors", argument "headers"⟩
  | .notFound =>
      let detail := Problem.missingDetail (argument "resource").label (argument "resource_id").label
      Draft.completed ⟨.notFound, .ofNat 404, .null, .text detail, .null, .null, .null⟩
  | .unauthorized =>
      let detail := (Json.lookup? given "detail").getD (.text Problem.credentialsDetail)
      Draft.completed ⟨.unauthorized, .ofNat 401, .null, detail, .null, .null,
        .object [("WWW-Authenticate", .text "Bearer")]⟩

end DraftKind

end Targeting
