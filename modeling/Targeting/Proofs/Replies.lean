import Mathlib.Data.List.Basic
import Targeting.Proofs.Sample

/-!
What becomes of a request on its way through the layers. The innermost one attempts a response, and
either it comes about, and the layers around dress it, or something goes wrong that no layer
provides for, and then the request is answered on its own, outside of all layers.
-/

namespace Targeting.Http

/-- What a problem says, its place, its time and the id of its request aside. -/
structure Complaint where
  status : Nat
  code : ErrorCode
  detail : String
  errors : Option Json
  headers : List (String × String)

/-- What there is to say of trouble, unless it is of a kind that nobody provides for. -/
def Trouble.complaint : Trouble → Except Crash Complaint
  | .unauthorized =>
      .ok ⟨401, .unauthorized, Problem.credentialsDetail, none, [Service.bearerHeader]⟩
  | .merchantNotFound subject =>
      .ok ⟨404, .notFound, Problem.missingDetail "Merchant" subject, none, []⟩
  | .body (.invalid issues) =>
      .ok ⟨422, .invalid, "Request validation failed",
        some (.list (issues.map Issue.toJson)), []⟩
  | .body .unreadable => .ok ⟨400, .internal, "There was an error parsing the body", none, []⟩
  | .failure f =>
      match f.kind? with
      | some kind => .ok ⟨kind.answer.1, kind.answer.2, f.message, Service.failureErrors f, []⟩
      | none => .error ⟨f.label, f.message?⟩
  | .crash c => .error c

theorem method_of_found {method path other : String} {e : Endpoint}
    (h : destination method path other = .found e) : method = "GET" ∨ method = "POST" := by
  have hmethods : ∀ route ∈ Route.all, route.method = "GET" ∨ route.method = "POST" := by
    simp [Route.all]
  unfold destination at h
  dsimp only at h
  split at h
  · rename_i route _ hfind
    have hmethod : route.method = method := by simpa using List.find?_some hfind
    obtain ⟨r, hr, hfits⟩ := List.mem_filterMap.mp (List.mem_of_find?_eq_some hfind)
    obtain ⟨_, -, heq⟩ := Option.map_eq_some_iff.mp hfits
    cases heq
    rw [← hmethod]
    exact hmethods _ hr
  · split at h
    · cases h
    · split at h <;> cases h

theorem announcement?_eq_none {r : Request} (h : r.method ≠ "OPTIONS") :
    announcement? r = none := by
  unfold announcement?
  split
  · rw [if_neg h]
  · rfl

theorem exists_of_isOk {ε α : Type} {x : Except ε α} (h : x.isOk = true) : ∃ a, x = .ok a := by
  cases x with
  | error e => cases h
  | ok a => exact ⟨a, rfl⟩

namespace Service

/-- The problem that a complaint is told as. -/
def told (s : Service) (id : String) (place : Except Crash String) (c : Complaint) :
    Except Crash Response :=
  s.problemResponse id place c.status c.code c.detail c.errors c.headers

def pageHeaders : List (String × String) := [("content-type", "application/json")]

/-- The response that an endpoint's answer calls for. -/
def respond (s : Service) (id : String) (place : Except Crash String) :
    Except Trouble Json → Except Crash Response
  | .ok page => jsonResponse 200 pageHeaders page
  | .error trouble => trouble.complaint.bind (s.told id place)

theorem respond_of_complaint {s : Service} {id : String} {place : Except Crash String}
    {trouble : Trouble} {c : Complaint} (h : trouble.complaint = .ok c) :
    s.respond id place (.error trouble) = s.told id place c := by
  simp only [respond, h, Except.bind]

theorem respond_of_crash {s : Service} {id : String} {place : Except Crash String}
    {trouble : Trouble} {c : Crash} (h : trouble.complaint = .error c) :
    s.respond id place (.error trouble) = .error c := by
  simp only [respond, h, Except.bind]

/-- The response that the innermost layer attempts. -/
def attempt (s : Service) (r : Request) (id : String) : Except Crash Response :=
  let path := r.address.shownPath
  match destination r.method path (otherSpelling path) with
  | .nowhere => s.told id r.place ⟨404, .notFound, "Not Found", none, []⟩
  | .wrongMethod allowed =>
      s.told id r.place ⟨405, .internal, "Method Not Allowed", none, [("allow", allowed)]⟩
  | .elsewhere other =>
      (r.addressOf other).map fun address => ⟨307, [("location", address)], .plain "", none, false⟩
  | .found e => s.respond id r.place (s.run r e).answer

/-- A reply stands for an attempt: it is the response if there is one, and else stands for a
crash. -/
structure StandsFor (s : Service) (place : Except Crash String) (reply : Reply)
    (attempted : Except Crash Response) : Prop where
  response : ∀ response, attempted = .ok response →
    reply.response = response ∧ reply.isCrash = false
  crash : ∀ c, attempted = .error c →
    reply.isCrash = true ∧ ∃ c, reply.response = (s.crashed place c).response

section Replies

variable (s : Service) (id : String) (place : Except Crash String)

theorem standsFor_crashed (c other : Crash) :
    s.StandsFor place (s.crashed place c) (.error other) :=
  ⟨fun _ h => (by cases h), fun _ _ => ⟨rfl, c, rfl⟩⟩

theorem standsFor_ok {reply : Reply} {response : Response} (hresponse : reply.response = response)
    (hcrash : reply.isCrash = false) : s.StandsFor place reply (.ok response) := by
  refine ⟨?_, fun _ h => (by cases h)⟩
  rintro _ ⟨⟩
  exact ⟨hresponse, hcrash⟩

theorem standsFor_reply (events : String → List Event) (attempted : Except Crash Response) :
    s.StandsFor place (s.reply place events attempted) attempted := by
  unfold reply
  cases attempted with
  | ok response => exact s.standsFor_ok place rfl rfl
  | error c => exact ⟨fun _ h => (by cases h), fun _ _ => ⟨rfl, c, rfl⟩⟩

theorem standsFor_datedReply (status : Nat) (code : ErrorCode) (detail : String)
    (headers : List (String × String)) :
    s.StandsFor place (s.datedReply id place status code detail headers)
      (s.told id place ⟨status, code, detail, none, headers⟩) := by
  unfold datedReply
  cases hclock : s.clock with
  | ok now => exact s.standsFor_reply place _ _
  | error c =>
      -- The clock is read once more when the problem is told, which fails in the same way.
      have htold : ∃ other, s.told id place ⟨status, code, detail, none, headers⟩ =
          .error other := by
        unfold told problemResponse
        rw [hclock]
        cases place with
        | error other => exact ⟨other, rfl⟩
        | ok path => exact ⟨c, rfl⟩
      obtain ⟨other, hother⟩ := htold
      rw [hother]
      exact s.standsFor_crashed place c other

theorem standsFor_troubleReply (trouble : Trouble) :
    s.StandsFor place (s.troubleReply id place trouble) (s.respond id place (.error trouble)) := by
  cases trouble with
  | unauthorized => exact s.standsFor_datedReply id place _ _ _ _
  | merchantNotFound subject => exact s.standsFor_datedReply id place _ _ _ _
  | body fault => cases fault <;> exact s.standsFor_reply place _ _
  | crash c => exact s.standsFor_crashed place c c
  | failure f =>
      unfold troubleReply respond Trouble.complaint
      dsimp only
      cases f.kind? with
      | some kind => exact s.standsFor_reply place _ _
      | none => exact s.standsFor_crashed place _ _

theorem standsFor_answerReply (answer : Except Trouble Json) :
    s.StandsFor place (s.answerReply id place answer) (s.respond id place answer) := by
  cases answer with
  | error trouble => exact s.standsFor_troubleReply id place trouble
  | ok page =>
      unfold answerReply respond pageHeaders
      dsimp only
      cases jsonResponse 200 [("content-type", "application/json")] page with
      | ok response => exact s.standsFor_ok place rfl rfl
      | error c => exact s.standsFor_crashed place c c

theorem standsFor_innerReply (r : Request) :
    s.StandsFor r.place (s.innerReply r id).2 (s.attempt r id) := by
  unfold innerReply attempt
  dsimp only
  cases destination r.method r.address.shownPath (otherSpelling r.address.shownPath) with
  | nowhere | wrongMethod | elsewhere => exact s.standsFor_reply r.place _ _
  | found e =>
      have hanswer := s.standsFor_answerReply id r.place (s.run r e).answer
      exact ⟨hanswer.response, hanswer.crash⟩

theorem jsonResponse_eq {status : Nat} {headers : List (String × String)} {value : Json}
    {text : String} (h : value.payload = .ok text) :
    jsonResponse status headers value = .ok ⟨status, headers, .json value, none, false⟩ := by
  rw [jsonResponse, h]
  rfl

theorem eq_of_jsonResponse {status : Nat} {headers : List (String × String)} {value : Json}
    {response : Response} (h : jsonResponse status headers value = .ok response) :
    response = ⟨status, headers, .json value, none, false⟩ := by
  unfold jsonResponse at h
  cases hpayload : value.payload with
  | error c =>
      rw [hpayload] at h
      cases h
  | ok text =>
      rw [hpayload] at h
      exact (Except.ok.inj h).symm

/-- The name of the type that the body of a problem has. -/
def problemType : String := "application/problem+json"

/-- What a complaint is written as, once its place and the time are known. -/
def written (id path : String) (now : Moment) (c : Complaint) : Json :=
  { Problem.ofStatus c.status c.code c.detail now id with
    location := some path
    errors := c.errors }.toJson

theorem told_eq {path : String} {now : Moment} (hplace : place = .ok path)
    (hclock : s.clock = .ok now) (c : Complaint) :
    s.told id place c =
      jsonResponse c.status (("content-type", problemType) :: c.headers)
        (written id path now c) := by
  unfold told problemResponse
  rw [hplace, hclock]
  rfl

/-- A problem that is told names its request, and says of what type it is. -/
theorem exists_of_told {c : Complaint} {response : Response}
    (h : s.told id place c = .ok response) :
    ∃ path now, response = ⟨c.status, ("content-type", problemType) :: c.headers,
      .json (written id path now c), none, false⟩ := by
  cases hplace : place with
  | error crash =>
      rw [hplace] at h
      cases h
  | ok path =>
      cases hclock : s.clock with
      | error crash =>
          rw [hplace, told, problemResponse, hclock] at h
          cases h
      | ok now =>
          rw [s.told_eq id place hplace hclock] at h
          exact ⟨path, now, eq_of_jsonResponse h⟩

theorem traceId_written (path : String) (now : Moment) (c : Complaint) :
    (written id path now c).field? "trace_id" = some (.text id) := by
  simp only [written, Problem.toJson, Json.field?, Json.lookup?, List.find?_filter]
  simp [Problem.members, Json.isNull, Problem.ofStatus]

theorem crashed_eq (c : Crash) : (s.crashed place c).response =
    (s.told s.freshRequestId place
      ⟨500, .internal, s.crashDetail c.message, none, []⟩).toOption.getD .blank := rfl

theorem crashed_of_payload {path : String} {now : Moment} (hplace : place = .ok path)
    (hclock : s.clock = .ok now) (c : Crash) {text : String}
    (h : (written s.freshRequestId path now
      ⟨500, .internal, s.crashDetail c.message, none, []⟩).payload = .ok text) :
    (s.crashed place c).response = ⟨500, [("content-type", problemType)],
      .json (written s.freshRequestId path now
        ⟨500, .internal, s.crashDetail c.message, none, []⟩), none, false⟩ := by
  rw [crashed_eq, s.told_eq s.freshRequestId place hplace hclock, jsonResponse_eq h]
  rfl

/-- A response to a crash is a response of its own: no layer has seen it. -/
theorem crashed_response (c : Crash) :
    (s.crashed place c).response.status = 500 ∧ (s.crashed place c).response.requestId = none ∧
      ∀ value, (s.crashed place c).response.body = .json value →
        value.field? "trace_id" = some (.text s.freshRequestId) := by
  rw [crashed_eq]
  cases htold : s.told s.freshRequestId place
      ⟨500, .internal, s.crashDetail c.message, none, []⟩ with
  | error other => exact ⟨rfl, rfl, fun _ hbody => (by cases hbody)⟩
  | ok response =>
      obtain ⟨path, now, rfl⟩ := s.exists_of_told s.freshRequestId place htold
      refine ⟨rfl, rfl, ?_⟩
      rintro _ ⟨⟩
      exact traceId_written _ _ _ _

end Replies

section Handle

variable {s : Service} {r : Request}

/-- The body that is sent along with a response: none, to a request that asks for headers alone. -/
def sentBody (r : Request) (response : Response) : Body :=
  if r.method = "HEAD" then .empty else response.body

theorem body_of_sentBody {response : Response} {value : Json}
    (h : sentBody r response = .json value) : response.body = .json value := by
  unfold sentBody at h
  split at h
  · cases h
  · exact h

theorem handle_of_attempt (h : announcement? r = none) {response : Response}
    (hresponse : s.attempt r (s.requestId r) = .ok response) :
    (s.handle r).2.2 =
      { s.dressed r (s.requestId r) response with body := sentBody r response } := by
  obtain ⟨hreply, hcrash⟩ := (s.standsFor_innerReply (s.requestId r) r).response response hresponse
  unfold handle
  rw [h]
  simp only [hreply, hcrash]
  rfl

theorem handle_of_crash (h : announcement? r = none) {c : Crash}
    (hcrash : s.attempt r (s.requestId r) = .error c) :
    ∃ c, (s.handle r).2.2 = { (s.crashed r.place c).response with
      body := sentBody r (s.crashed r.place c).response } := by
  obtain ⟨hreply, c, hresponse⟩ := (s.standsFor_innerReply (s.requestId r) r).crash c hcrash
  refine ⟨c, ?_⟩
  unfold handle
  rw [h]
  simp only [hreply, hresponse]
  rfl

end Handle

/-- A request of a merchant to an endpoint that only merchants may ask. -/
structure Reaches (s : Service) (r : Request) (e : Endpoint) (subject : String) (m : Merchant) :
    Prop where
  found : destination r.method r.address.shownPath (otherSpelling r.address.shownPath) = .found e
  guarded : isOpen e = false
  readable : ∃ body, (if readsBody e then readBody r else .ok none) = .ok body
  identified : ∃ token, r.bearerToken? = some token ∧
    Token.subject token s.settings.secretKey s.settings.algorithm s.secondsNow =
      .ok (.text subject)
  named : subject ≠ ""
  stored : s.database.store.merchantOf? subject = some m

section Reaching

variable {s : Service} {r : Request} {e : Endpoint} {subject : String} {m : Merchant}
  (h : s.Reaches r e subject m)
include h

theorem Reaches.merchant_eq : s.merchant r = ([], s.merchantOf subject) := by
  obtain ⟨token, htoken, hsubject⟩ := h.identified
  unfold merchant
  rw [htoken]
  dsimp only
  rw [hsubject]
  dsimp only
  rw [if_neg h.named]

theorem Reaches.run_eq (hlookup : s.database.breakdown? (merchantQuery subject) = none)
    {body : Option Json} (hbody : (if readsBody e then readBody r else .ok none) = .ok body) :
    s.run r e = s.perform (s.session m.id s.clock) body e := by
  have hmerchant : s.merchantOf subject = .ok m := by
    rw [merchantOf, hlookup]
    dsimp only
    rw [h.stored]
  unfold run
  rw [if_neg (by simp [h.guarded]), hbody]
  dsimp only
  rw [h.merchant_eq, hmerchant]
  rfl

theorem Reaches.answer_of_breakdown {b : Breakdown}
    (hlookup : s.database.breakdown? (merchantQuery subject) = some b) :
    (s.run r e).answer = .error (.crash (lookupCrash b)) := by
  obtain ⟨body, hbody⟩ := h.readable
  have hmerchant : s.merchantOf subject = .error (.crash (lookupCrash b)) := by
    rw [merchantOf, hlookup]
  unfold run
  rw [if_neg (by simp [h.guarded]), hbody]
  dsimp only
  rw [h.merchant_eq, hmerchant]
  rfl

theorem Reaches.attempt_eq (id : String) :
    s.attempt r id = s.respond id r.place (s.run r e).answer := by
  unfold attempt
  dsimp only
  rw [h.found]

theorem Reaches.announcement?_eq_none : announcement? r = none := by
  apply Http.announcement?_eq_none
  intro hmethod
  rcases method_of_found h.found with hget | hpost <;> simp_all

theorem Reaches.handle_of_response {response : Response}
    (hresponse : s.respond (s.requestId r) r.place (s.run r e).answer = .ok response) :
    (s.handle r).2.2.status = response.status ∧ (s.handle r).2.2.body = response.body := by
  rw [handle_of_attempt h.announcement?_eq_none ((h.attempt_eq _).trans hresponse)]
  refine ⟨rfl, if_neg fun hmethod => ?_⟩
  rcases method_of_found h.found with hget | hpost <;> simp_all

theorem Reaches.handle_of_page {page : Json} {text : String}
    (hanswer : (s.run r e).answer = .ok page) (htext : page.payload = .ok text) :
    (s.handle r).2.2.status = 200 ∧ (s.handle r).2.2.body = .json page := by
  have hresponse : s.respond (s.requestId r) r.place (s.run r e).answer =
      .ok ⟨200, pageHeaders, .json page, none, false⟩ := by
    rw [hanswer, respond, jsonResponse_eq htext]
  exact h.handle_of_response hresponse

theorem Reaches.status_of_crash {c : Crash}
    (hcrash : s.respond (s.requestId r) r.place (s.run r e).answer = .error c) :
    (s.handle r).2.2.status = 500 := by
  obtain ⟨crash, hresponse⟩ :=
    handle_of_crash h.announcement?_eq_none ((h.attempt_eq _).trans hcrash)
  rw [hresponse]
  exact (s.crashed_response r.place crash).1

end Reaching

/-- The merchant's requests reach the endpoints that they lead to. -/
theorem reaches_request {d : Database} {method path body : String} {e : Endpoint}
    (hstored : d.store.merchantOf? "user_1" = some ⟨"m1", "user_1"⟩)
    (hfound : destination method (Sample.request method path body).address.shownPath
      (otherSpelling (Sample.request method path body).address.shownPath) = .found e)
    (hguarded : isOpen e = false)
    (hreadable : ∃ read, (if readsBody e then readBody (Sample.request method path body)
      else .ok none) = .ok read) :
    (Sample.service d).Reaches (Sample.request method path body) e "user_1" ⟨"m1", "user_1"⟩ :=
  ⟨hfound, hguarded, hreadable,
    ⟨Sample.token, Sample.bearerToken?_request method path body, Sample.subject_token⟩,
    by decide, hstored⟩

end Service

end Targeting.Http
