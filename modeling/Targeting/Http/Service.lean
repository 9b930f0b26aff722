import Targeting.Criteria
import Targeting.Http.Body
import Targeting.Http.Cors
import Targeting.Http.Page
import Targeting.Http.Route
import Targeting.Http.Token
import Targeting.Json.Payload
import Targeting.Problem

/-!
The service: a request goes in, a response and the store afterwards come out. Around every
endpoint stand the same layers. The inner one turns trouble into problem details, the next one
answers browsers about origins, the outer one gives the response the id of its request. What
nobody expects falls through all of them and is answered on its own. An answer may go wrong in
turn, when the clock cannot be read or a text has no bytes; then only a blank response is left.
-/

namespace Targeting.Http

structure Service where
  database : Database
  settings : LiveSettings
  now : Moment
  /-- Origins allowed since the service was started. -/
  origins : List String
  /-- The id for a condition that comes without one. -/
  freshConditionId : String
  /-- The id for a request that comes without one. -/
  freshRequestId : String

/-- Why an endpoint does not answer. -/
inductive Trouble where
  | unauthorized
  | merchantNotFound (subject : String)
  | body (fault : BodyFault)
  | failure (f : Failure)
  | crash (c : Crash)

/-- What an endpoint comes to: the store afterwards, events, and an answer. -/
structure Outcome where
  store : Store
  events : List Event
  answer : Except Trouble Json

namespace Service

/-- The clock of universal time. -/
def clock (s : Service) : Except Crash Moment :=
  s.now.inUniversalTime?.elim (.error .outOfCalendar) .ok

/-- A session whose clock is the one of the service, or the one of universal time. -/
def session (s : Service) (merchantId : String) (now : Except Crash Moment) : Session :=
  ⟨s.database, merchantId, s.settings.storeTimeout, s.settings.concurrency, now⟩

/-- The time in whole seconds from the start of the year 1970. -/
def secondsNow (s : Service) : Except Crash Int :=
  s.clock.map fun now => (now.wall / microsPerSecond : Nat) - (719162 * 86400 : Int)

/-- A breakdown of the look-up of a merchant. No layer of the store stands between: errors of the
driver are passed on as they are, and only the driver itself gives up waiting. -/
def lookupCrash : Breakdown → Crash
  | .driver label => .driver label
  | .silence => ⟨"TimeoutError", some ""⟩
  | .crash c => c

def merchantQuery (subject : String) : Query := ⟨"merchant lookup", .merchants, [subject], none⟩

/-- The merchant of a subject. -/
def merchantOf (s : Service) (subject : String) : Except Trouble Merchant :=
  match s.database.breakdown? (merchantQuery subject) with
  | some b => .error (.crash (lookupCrash b))
  | none =>
      match s.database.store.merchantOf? subject with
      | none => .error (.merchantNotFound subject)
      | some m => .ok m

/-- The merchant that a request is made for, with the events on the way. -/
def merchant (s : Service) (r : Request) : List Event × Except Trouble Merchant :=
  match r.bearerToken? with
  | none => ([], .error .unauthorized)
  | some token =>
      match Token.subject token s.settings.secretKey s.settings.algorithm s.secondsNow with
      | .error .invalid => ([.tokenRefused], .error .unauthorized)
      | .error (.crash c) => ([], .error (.crash c))
      | .ok (.text subject) =>
          ([], if subject = "" then .error .unauthorized else s.merchantOf subject)
      | .ok _ => ([], .error .unauthorized)

/-- An outcome that leaves the store as it is. -/
def unchanged (s : Service) (events : List Event) (answer : Except Trouble Json) : Outcome :=
  ⟨s.database.store, events, answer⟩

/-- The outcome of an operation of the service, whose page may not come about. -/
def ofTraced {α : Type} (store : Store) (t : Traced α) (page : α → Except Crash Json) : Outcome :=
  ⟨store, t.events, (t.outcome.mapError .failure).bind fun a => (page a).mapError .crash⟩

/-- An estimate of the conditions in a body. -/
def estimate (s : Service) (session : Session) (body : Option Json) : Outcome :=
  match readConditions s.freshConditionId body with
  | .error issues => s.unchanged [] (.error (.body (.invalid issues)))
  | .ok conditions =>
      let filled := conditions.filter (!·.isUnfilled)
      let outcome := ofTraced s.database.store (session.estimate conditions) fun e =>
        s.clock.map fun now =>
          estimatePage conditions.length (Criteria.unsupportedCategories filled) now e
      ⟨outcome.store, Criteria.events filled ++ outcome.events, outcome.answer⟩

/-- The union of the segments in a body. -/
def resolve (s : Service) (session : Session) (body : Option Json) : Outcome :=
  match readSegmentIds body with
  | .error issues => s.unchanged [] (.error (.body (.invalid issues)))
  | .ok segmentIds =>
      ofTraced s.database.store (session.resolveUnion segmentIds) fun a => .ok (audiencePage a)

/-- What an endpoint does for a merchant. -/
def perform (s : Service) (session : Session) (body : Option Json) : Endpoint → Outcome
  | .root => s.unchanged [] (.ok (rootPage s.settings))
  | .health => s.unchanged [] (.ok (healthPage s.settings))
  | .categories => s.unchanged [] (.ok categoriesPage)
  | .estimate => s.estimate session body
  | .statistics =>
      ofTraced s.database.store session.statistics fun t =>
        s.clock.map fun now => statisticsPage now t
  | .recalculate =>
      let (store, found) := session.recount
      ofTraced store found (recountPage s.clock)
  | .segmentAudience id =>
      ofTraced s.database.store (session.resolveSegment id) fun a => .ok (segmentPage a)
  | .resolve => s.resolve session body
  | .campaignAudience id =>
      ofTraced s.database.store (session.resolveCampaign id) fun a => .ok (audiencePage a)
  | .campaignReach id =>
      ofTraced s.database.store (session.resolveCampaign id) fun a => .ok (reachPage id a)

/-- Endpoints that anybody may ask. -/
def isOpen : Endpoint → Bool
  | .root | .health => true
  | _ => false

/-- Endpoints that read the body of a request. -/
def readsBody : Endpoint → Bool
  | .estimate | .resolve => true
  | _ => false

/-- Reads the body first, then finds the merchant, and only then looks at what the body says. -/
def run (s : Service) (r : Request) (e : Endpoint) : Outcome :=
  if isOpen e then s.perform (s.session "" s.clock) none e
  else
    match if readsBody e then readBody r else .ok none with
    | .error fault => s.unchanged [] (.error (.body fault))
    | .ok body =>
        let (events, found) := s.merchant r
        match found with
        | .error trouble => s.unchanged events (.error trouble)
        | .ok m =>
            let outcome := s.perform (s.session m.id s.clock) body e
            ⟨outcome.store, events ++ outcome.events, outcome.answer⟩

def requestId (s : Service) (r : Request) : String :=
  ((r.header? "x-request-id").filter (· ≠ "")).getD s.freshRequestId

/-- A response, what is told on the way to it, and whether it stands for a crash. -/
structure Reply where
  events : List Event
  response : Response
  isCrash : Bool

/-- A response with a value in its body, unless the value cannot be sent. -/
def jsonResponse (status : Nat) (headers : List (String × String)) (value : Json) :
    Except Crash Response :=
  value.payload.map fun _ => ⟨status, headers, .json value, none, false⟩

/-- A response that tells of a problem at a place. -/
def problemResponse (s : Service) (id : String) (place : Except Crash String) (status : Nat)
    (code : ErrorCode) (detail : String) (errors : Option Json)
    (headers : List (String × String)) : Except Crash Response := do
  let path ← place
  let p := Problem.ofStatus status code detail (← s.clock) id
  jsonResponse status (("content-type", "application/problem+json") :: headers)
    { p with location := some path, errors := errors }.toJson

def bearerHeader : String × String := ("www-authenticate", "Bearer")

/-- The words of a crash are for developers only. -/
def crashDetail (s : Service) (message : String) : String :=
  if s.settings.showsInternals then message else "An unexpected error occurred"

/-- The reply to a crash. When it goes wrong in turn, a blank response is left. -/
def crashed (s : Service) (place : Except Crash String) (c : Crash) : Reply :=
  let events := (place.map fun path => [Event.unhandled c.label path]).toOption.getD []
  let response := s.problemResponse s.freshRequestId place 500 .internal (s.crashDetail c.message)
    none []
  ⟨events, response.toOption.getD .blank, true⟩

/-- The reply with a response. What is told of it takes a place, and a response that does not come
about is a crash. -/
def reply (s : Service) (place : Except Crash String) (events : String → List Event)
    (response : Except Crash Response) : Reply :=
  let events := (place.map events).toOption.getD []
  match response with
  | .ok r => ⟨events, r, false⟩
  | .error c =>
      let crash := s.crashed place c
      { crash with events := events ++ crash.events }

/-- What a union says of single segments in a problem. -/
def failureErrors : Failure → Option Json
  | .resolution _ failures =>
      if failures.isEmpty then none
      else
        some (.list (failures.map fun (id, message) =>
          .object [("segment_id", .text id), ("message", .text message)]))
  | _ => none

/-- The reply to a problem that is dated when it is found, before anything is told of it. -/
def datedReply (s : Service) (id : String) (place : Except Crash String) (status : Nat)
    (code : ErrorCode) (detail : String) (headers : List (String × String)) : Reply :=
  match s.clock with
  | .error c => s.crashed place c
  | .ok _ =>
      s.reply place (fun path => [.problemRaised status code.text detail path])
        (s.problemResponse id place status code detail none headers)

/-- The reply to trouble. -/
def troubleReply (s : Service) (id : String) (place : Except Crash String) : Trouble → Reply
  | .unauthorized =>
      s.datedReply id place 401 .unauthorized Problem.credentialsDetail [bearerHeader]
  | .merchantNotFound subject =>
      s.datedReply id place 404 .notFound (Problem.missingDetail "Merchant" subject) []
  | .body (.invalid issues) =>
      s.reply place (fun _ => []) (s.problemResponse id place 422 .invalid
        "Request validation failed" (some (.list (issues.map Issue.toJson))) [])
  | .body .unreadable =>
      s.reply place (fun _ => []) (s.problemResponse id place 400 .internal
        "There was an error parsing the body" none [])
  | .failure f =>
      match f.kind? with
      | some kind =>
          let (status, code) := kind.answer
          s.reply place (fun path => [.audienceProblem status f.label f.message path])
            (s.problemResponse id place status code f.message (failureErrors f) [])
      | none => s.crashed place ⟨f.label, f.message?⟩
  | .crash c => s.crashed place c

/-- The reply of an endpoint that answers, or does not. -/
def answerReply (s : Service) (id : String) (place : Except Crash String) :
    Except Trouble Json → Reply
  | .ok page =>
      match jsonResponse 200 [("content-type", "application/json")] page with
      | .ok r => ⟨[], r, false⟩
      | .error c => s.crashed place c
  | .error trouble => s.troubleReply id place trouble

/-- The reply of the innermost layer, with the store afterwards. -/
def innerReply (s : Service) (r : Request) (id : String) : Store × Reply :=
  let path := r.address.shownPath
  let problem (status : Nat) (code : ErrorCode) (detail : String)
      (headers : List (String × String)) : Store × Reply :=
    (s.database.store, s.reply r.place (fun _ => [])
      (s.problemResponse id r.place status code detail none headers))
  match destination r.method path (otherSpelling path) with
  | .nowhere => problem 404 .notFound "Not Found" []
  | .wrongMethod allowed => problem 405 .internal "Method Not Allowed" [("allow", allowed)]
  | .elsewhere other =>
      (s.database.store, s.reply r.place (fun _ => [])
        ((r.addressOf other).map fun address =>
          ⟨307, [("location", address)], .plain "", none, false⟩))
  | .found endpoint =>
      let outcome := s.run r endpoint
      let answer := s.answerReply id r.place outcome.answer
      (outcome.store, { answer with events := outcome.events ++ answer.events })

/-- Gives a response the headers of the outer layers. -/
def dressed (s : Service) (r : Request) (id : String) (response : Response) : Response :=
  let headers :=
    match r.header? "origin" with
    | some origin => response.headers ++ originHeaders s.origins origin
    | none => response.headers
  ⟨response.status, headers, response.body, some id, true⟩

/-- Answers a request. -/
def handle (s : Service) (r : Request) : Store × List Event × Response :=
  let id := s.requestId r
  match announcement? r with
  | some announced =>
      let (status, headers, text) := announced.answer s.origins
      (s.database.store, [], ⟨status, headers, .plain text, some id, true⟩)
  | none =>
      let (store, reply) := s.innerReply r id
      let response := if reply.isCrash then reply.response else s.dressed r id reply.response
      let body := if r.method = "HEAD" then Body.empty else response.body
      (store, reply.events, { response with body := body })

end Service

end Targeting.Http
