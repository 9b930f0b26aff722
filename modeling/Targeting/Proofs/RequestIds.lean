import Targeting.Proofs.Replies

/-!
The id of a request goes with its response, as long as the response comes out of the layers: the
outer one writes the id in the header, and a problem names it as its trace. A crash that no layer
provides for is answered outside of them, and there the id of the request is lost.
-/

namespace Targeting.Http

/-- A response carries an id: in its header, and in its body if that is a problem. -/
structure Response.Carries (response : Response) (id : String) : Prop where
  header : response.requestId = some id
  trace : ∀ value, response.body = .json value →
    response.headers.lookup "content-type" = some Service.problemType →
      value.field? "trace_id" = some (.text id)

namespace Service

variable {s : Service} {r : Request}

/-- Something goes wrong with a request that no layer provides for. -/
def FallsThrough (s : Service) (r : Request) : Prop :=
  announcement? r = none ∧ ∃ c, s.attempt r (s.requestId r) = .error c

theorem requestId_eq {id : String} (h : r.header? "x-request-id" = some id) (hid : id ≠ "") :
    s.requestId r = id := by
  simp [requestId, h, Option.filter_some, hid]

theorem trace_of_told {id : String} {place : Except Crash String} {c : Complaint}
    {response : Response} (h : s.told id place c = .ok response) {value : Json}
    (hvalue : response.body = .json value) : value.field? "trace_id" = some (.text id) := by
  obtain ⟨path, now, rfl⟩ := s.exists_of_told id place h
  cases hvalue
  exact traceId_written _ _ _ _

theorem trace_of_respond {id : String} {place : Except Crash String}
    {answer : Except Trouble Json} {response : Response}
    (h : s.respond id place answer = .ok response) {value : Json}
    (hvalue : response.body = .json value) :
    response.headers = pageHeaders ∨ value.field? "trace_id" = some (.text id) := by
  cases answer with
  | ok page =>
      rw [eq_of_jsonResponse h]
      exact .inl rfl
  | error trouble =>
      cases hcomplaint : trouble.complaint with
      | error c =>
          rw [respond_of_crash hcomplaint] at h
          cases h
      | ok c =>
          rw [respond_of_complaint hcomplaint] at h
          exact .inr (trace_of_told h hvalue)

/-- What is written in an attempted response is a page, or a problem that names the request. -/
theorem trace_of_attempt {id : String} {response : Response}
    (h : s.attempt r id = .ok response) {value : Json} (hvalue : response.body = .json value) :
    response.headers = pageHeaders ∨ value.field? "trace_id" = some (.text id) := by
  unfold attempt at h
  dsimp only at h
  split at h
  · exact .inr (trace_of_told h hvalue)
  · exact .inr (trace_of_told h hvalue)
  · rename_i other _
    cases haddress : r.addressOf other with
    | error c =>
        rw [haddress] at h
        cases h
    | ok address =>
        rw [haddress] at h
        cases h
        cases hvalue
  · exact trace_of_respond h hvalue

theorem carries_of_attempt (h : announcement? r = none) {response : Response}
    (hresponse : s.attempt r (s.requestId r) = .ok response) :
    (s.handle r).2.2.Carries (s.requestId r) := by
  rw [handle_of_attempt h hresponse]
  refine ⟨rfl, fun value hvalue htype => ?_⟩
  rcases trace_of_attempt hresponse (body_of_sentBody hvalue) with hpage | htrace
  · -- A page is of another type than a problem, whatever the outer layers add.
    have hlookup : (s.dressed r (s.requestId r) response).headers.lookup "content-type" =
        some "application/json" := by
      unfold dressed
      rw [hpage]
      cases r.header? "origin" <;> rfl
    rw [hlookup] at htype
    simp [problemType] at htype
  · exact htrace

theorem carries_of_announced {announced : Announcement} (h : announcement? r = some announced) :
    (s.handle r).2.2.Carries (s.requestId r) := by
  unfold handle
  rw [h]
  exact ⟨rfl, fun _ hvalue => by cases hvalue⟩

theorem lost_of_fallsThrough (h : s.FallsThrough r) :
    (s.handle r).2.2.status = 500 ∧ (s.handle r).2.2.requestId = none ∧
      ∀ value, (s.handle r).2.2.body = .json value →
        value.field? "trace_id" = some (.text s.freshRequestId) := by
  obtain ⟨hannounced, c, hcrash⟩ := h
  obtain ⟨crash, hresponse⟩ := handle_of_crash hannounced hcrash
  obtain ⟨hstatus, hnone, htrace⟩ := s.crashed_response r.place crash
  rw [hresponse]
  exact ⟨hstatus, hnone, fun value hvalue => htrace value (body_of_sentBody hvalue)⟩

/-- What becomes of the id of a request. -/
structure TracesRequest (s : Service) (r : Request) (id : String) : Prop where
  carries_iff : (s.handle r).2.2.Carries id ↔ ¬ s.FallsThrough r
  lost : s.FallsThrough r → (s.handle r).2.2.status = 500 ∧ (s.handle r).2.2.requestId = none ∧
    ∀ value, (s.handle r).2.2.body = .json value →
      value.field? "trace_id" = some (.text s.freshRequestId)

/-- The id that a request comes with goes with its response unless the request falls through, and
then it goes with nothing. -/
theorem handle_traces_request (s : Service) (r : Request) (id : String)
    (h : r.header? "x-request-id" = some id) (hid : id ≠ "") : s.TracesRequest r id := by
  have hrequest : s.requestId r = id := requestId_eq h hid
  refine ⟨⟨fun hcarries hfalls => ?_, fun hstays => ?_⟩, lost_of_fallsThrough⟩
  · have hheader := hcarries.header
    rw [(lost_of_fallsThrough hfalls).2.1] at hheader
    cases hheader
  · rw [← hrequest]
    cases hannounced : announcement? r with
    | some announced => exact carries_of_announced hannounced
    | none =>
        cases hattempt : s.attempt r (s.requestId r) with
        | ok response => exact carries_of_attempt hannounced hattempt
        | error c => exact absurd ⟨hannounced, c, hattempt⟩ hstays

/-- A request of the merchant for statistics. -/
def statisticsRequest : Request := Sample.request "GET" "/api/v2/segments/estimate" ""

/-- The merchant's service while something unexpected happens to whatever reads the subscribers. -/
def crashing : Service :=
  Sample.service ⟨Sample.store [], [], true,
    some (Fault.pattern ⟨.subscribers, .crash ⟨"RuntimeError", some "boom"⟩, none⟩)⟩

theorem header?_statisticsRequest : statisticsRequest.header? "x-request-id" = some "r1" := by
  decide +kernel

theorem handle_traces_request_statistics :
    statisticsRequest.header? "x-request-id" = some "r1" ∧ "r1" ≠ "" ∧
      crashing.TracesRequest statisticsRequest "r1" := by
  have hid : "r1" ≠ "" := by decide
  exact ⟨header?_statisticsRequest, hid,
    handle_traces_request _ _ _ header?_statisticsRequest hid⟩

theorem reaches_statistics :
    crashing.Reaches statisticsRequest .statistics "user_1" ⟨"m1", "user_1"⟩ :=
  reaches_request rfl (by decide +kernel) rfl ⟨none, rfl⟩

theorem fallsThrough_statistics : crashing.FallsThrough statisticsRequest := by
  have hrun : crashing.run statisticsRequest .statistics =
      crashing.perform (crashing.session "m1" crashing.clock) none .statistics :=
    reaches_statistics.run_eq rfl rfl
  refine ⟨reaches_statistics.announcement?_eq_none, ⟨"RuntimeError", some "boom"⟩, ?_⟩
  rw [reaches_statistics.attempt_eq, hrun]
  rfl

/-- The words of a crash are hidden, so that all crashes are told alike. -/
theorem crashed_crashing (c : Crash) : ∃ value,
    (crashing.crashed statisticsRequest.place c).response =
      ⟨500, [("content-type", problemType)], .json value, none, false⟩ ∧
      value.field? "trace_id" = some (.text "fresh") := by
  have hplace : statisticsRequest.place = .ok "/api/v2/segments/estimate" := by decide +kernel
  have hclock : crashing.clock = .ok Sample.now := by decide +kernel
  have hpayload : (written "fresh" "/api/v2/segments/estimate" Sample.now
      ⟨500, .internal, "An unexpected error occurred", none, []⟩).payload.isOk = true := by
    decide +kernel
  obtain ⟨text, htext⟩ := exists_of_isOk hpayload
  exact ⟨_, crashing.crashed_of_payload _ hplace hclock c htext, traceId_written _ _ _ _⟩

/-- When something unexpected happens, the response carries an id that is not the one that the
request came with. -/
theorem unexpected_failure_loses_request_id :
    statisticsRequest.header? "x-request-id" = some "r1" ∧
      (crashing.handle statisticsRequest).2.2.status = 500 ∧
      (crashing.handle statisticsRequest).2.2.requestId = none ∧
      (∃ value, (crashing.handle statisticsRequest).2.2.body = .json value ∧
        value.field? "trace_id" = some (.text "fresh")) ∧
      ¬ (crashing.handle statisticsRequest).2.2.Carries "r1" := by
  obtain ⟨hannounced, c, hcrash⟩ := fallsThrough_statistics
  obtain ⟨crash, hresponse⟩ := handle_of_crash hannounced hcrash
  obtain ⟨value, hcrashed, htrace⟩ := crashed_crashing crash
  have hmethod : statisticsRequest.method ≠ "HEAD" := by decide
  rw [hcrashed, sentBody, if_neg hmethod] at hresponse
  rw [hresponse]
  refine ⟨header?_statisticsRequest, rfl, rfl, ⟨value, rfl, htrace⟩, ?_⟩
  intro hcarries
  cases hcarries.header

end Service

end Targeting.Http
