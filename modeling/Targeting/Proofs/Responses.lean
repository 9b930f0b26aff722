import Targeting.Proofs.Replies

/-!
What is sent to a request that leads to an endpoint: the page that the endpoint answers with, the
problem that its trouble is told as, or the reply to a crash. Only the first of these is a success,
and only a page has members beside those of a problem.
-/

namespace Targeting.Http

/-- Whatever the trouble is, it is told as an error. -/
theorem Trouble.status_of_complaint {trouble : Trouble} {c : Complaint}
    (h : trouble.complaint = .ok c) : 400 ≤ c.status ∧ c.status < 600 := by
  have hkinds : ∀ kind : ErrorKind, 400 ≤ kind.answer.1 ∧ kind.answer.1 < 600 := by
    intro kind
    cases kind <;> decide
  cases trouble with
  | unauthorized | merchantNotFound =>
      cases h
      dsimp only
      omega
  | body fault =>
      cases fault with
      | invalid | unreadable =>
          cases h
          dsimp only
          omega
  | crash => cases h
  | failure f =>
      unfold complaint at h
      dsimp only at h
      cases hkind : f.kind? with
      | none =>
          rw [hkind] at h
          cases h
      | some kind =>
          rw [hkind] at h
          cases h
          exact hkinds kind

namespace Service

/-- The response to a request whose endpoint has come to an answer. -/
inductive Responds (s : Service) (r : Request) (answer : Except Trouble Json)
    (response : Response) : Prop where
  | page {page : Json} (hanswer : answer = .ok page) (hstatus : response.status = 200)
      (hbody : response.body = .json page)
  | problem {trouble : Trouble} {c : Complaint} {path : String} {now : Moment}
      (hanswer : answer = .error trouble) (hcomplaint : trouble.complaint = .ok c)
      (hstatus : response.status = c.status)
      (hbody : response.body = .json (written (s.requestId r) path now c))
  | crash {c : Crash} (hresponse : response = (s.crashed r.place c).response)

/-- The members that a problem may have. -/
def problemMembers : List String :=
  ["type", "title", "status", "detail", "instance", "code", "timestamp", "trace_id", "errors"]

theorem field?_written_eq_none {name : String} (h : name ∉ problemMembers) (id path : String)
    (now : Moment) (c : Complaint) : (written id path now c).field? name = none := by
  have hkeys : ∀ p : Problem, p.members.map Prod.fst = problemMembers := fun _ => rfl
  unfold written Problem.toJson Json.field? Json.lookup?
  dsimp only
  rw [Option.map_eq_none_iff, List.find?_eq_none]
  rintro ⟨key, value⟩ hfield hkey
  rw [← eq_of_beq hkey] at h
  apply h
  rw [← hkeys]
  exact List.mem_map_of_mem (f := Prod.fst) (List.mem_of_mem_filter hfield)

theorem store_of_handle (s : Service) (r : Request) : (s.handle r).1 =
    if (announcement? r).isSome then s.database.store else (s.innerReply r (s.requestId r)).1 := by
  unfold handle
  cases announcement? r <;> rfl

/-- The service over another database. -/
def withDatabase (s : Service) (d : Database) : Service := { s with database := d }

/-- A request is answered the same over another database if the innermost layer replies the same. -/
theorem handle_withDatabase {s : Service} {other : Database} {r : Request}
    (h : ((s.withDatabase other).innerReply r (s.requestId r)).2 =
      (s.innerReply r (s.requestId r)).2) :
    ((s.withDatabase other).handle r).2 = (s.handle r).2 := by
  have hid : (s.withDatabase other).requestId r = s.requestId r := rfl
  unfold handle
  rw [hid]
  cases announcement? r with
  | some announced => rfl
  | none =>
      dsimp only
      rw [h]
      rfl

section Responding

variable {s : Service} {r : Request} {e : Endpoint}

theorem written_of_crashed {place : Except Crash String} {c : Crash} {value : Json}
    (h : (s.crashed place c).response.body = .json value) : ∃ path now,
      value = written s.freshRequestId path now
        ⟨500, .internal, s.crashDetail c.message, none, []⟩ := by
  rw [crashed_eq] at h
  cases htold : s.told s.freshRequestId place
      ⟨500, .internal, s.crashDetail c.message, none, []⟩ with
  | error other =>
      rw [htold] at h
      cases h
  | ok response =>
      rw [htold] at h
      obtain ⟨path, now, rfl⟩ := s.exists_of_told s.freshRequestId place htold
      cases h
      exact ⟨path, now, rfl⟩

theorem responds_of_found
    (h : destination r.method r.address.shownPath (otherSpelling r.address.shownPath) = .found e) :
    s.Responds r (s.run r e).answer (s.handle r).2.2 := by
  have hmethod := method_of_found h
  have hnone : announcement? r = none := announcement?_eq_none (by rcases hmethod <;> simp_all)
  have hsent : ∀ response, sentBody r response = response.body := by
    intro response
    exact if_neg (by rcases hmethod <;> simp_all)
  have hattempt : s.attempt r (s.requestId r) =
      s.respond (s.requestId r) r.place (s.run r e).answer := by
    unfold attempt
    dsimp only
    rw [h]
  cases htried : s.attempt r (s.requestId r) with
  | error c =>
      obtain ⟨c, hresponse⟩ := handle_of_crash hnone htried
      rw [hsent] at hresponse
      exact .crash hresponse
  | ok response =>
      have hhandle := handle_of_attempt hnone htried
      rw [hsent] at hhandle
      rw [hattempt] at htried
      cases hanswer : (s.run r e).answer with
      | ok page =>
          rw [hanswer] at htried
          have hpage := eq_of_jsonResponse htried
          rw [hhandle, hpage]
          exact .page rfl rfl rfl
      | error trouble =>
          rw [hanswer] at htried
          cases hcomplaint : trouble.complaint with
          | error c =>
              rw [respond_of_crash hcomplaint] at htried
              cases htried
          | ok c =>
              rw [respond_of_complaint hcomplaint] at htried
              obtain ⟨path, now, rfl⟩ := s.exists_of_told _ _ htried
              rw [hhandle]
              exact .problem rfl hcomplaint rfl rfl

/-- A page that is not for everybody was made for some merchant. -/
theorem exists_of_run {page : Json} (hguarded : isOpen e = false)
    (h : (s.run r e).answer = .ok page) :
    ∃ merchantId body, (s.perform (s.session merchantId s.clock) body e).answer = .ok page := by
  unfold run at h
  rw [if_neg (by simp [hguarded])] at h
  cases hbody : if readsBody e then readBody r else .ok none with
  | error fault =>
      rw [hbody] at h
      cases h
  | ok body =>
      rw [hbody] at h
      dsimp only at h
      cases hmerchant : (s.merchant r).2 with
      | error trouble =>
          rw [hmerchant] at h
          cases h
      | ok m =>
          rw [hmerchant] at h
          exact ⟨m.id, body, h⟩

/-- Without a page there is no success. -/
theorem Responds.isError {trouble : Trouble} {response : Response}
    (h : s.Responds r (.error trouble) response) :
    400 ≤ response.status ∧ response.status < 600 := by
  cases h with
  | page hanswer => cases hanswer
  | problem hanswer hcomplaint hstatus =>
      rw [hstatus]
      exact Trouble.status_of_complaint hcomplaint
  | crash hresponse =>
      rw [hresponse, (s.crashed_response r.place _).1]
      decide

/-- A value that is sent is the page of the endpoint, or a problem. -/
theorem Responds.page_or_problem {answer : Except Trouble Json} {response : Response}
    (h : s.Responds r answer response) {value : Json} (hvalue : response.body = .json value) :
    answer = .ok value ∨ ∃ id path now c, value = written id path now c := by
  cases h with
  | page hanswer hstatus hbody =>
      rw [hbody] at hvalue
      cases hvalue
      exact .inl hanswer
  | problem hanswer hcomplaint hstatus hbody =>
      rw [hbody] at hvalue
      cases hvalue
      exact .inr ⟨_, _, _, _, rfl⟩
  | crash hresponse =>
      rw [hresponse] at hvalue
      obtain ⟨path, now, rfl⟩ := written_of_crashed hvalue
      exact .inr ⟨_, _, _, _, rfl⟩

end Responding

end Service

end Targeting.Http
