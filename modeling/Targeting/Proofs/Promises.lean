import Targeting.Proofs.LostQueries
import Targeting.Proofs.Replies

/-!
What a request is answered when a query of it is lost. An estimate says that it knows no number, a
union and a recount can do with less, and whoever asks for anything else is told that the store does
not answer. So it is with every query but the one that looks up the merchant of a request: no layer
of the store stands around that one, and a request that loses it ends in a crash.
-/

namespace Targeting.Http

/-- Endpoints that can do with less than all of their queries. -/
def Endpoint.bearsLoss : Endpoint → Bool
  | .recalculate | .resolve | .campaignAudience _ | .campaignReach _ => true
  | _ => false

/-- What an endpoint promises to a request that loses a query. -/
def Promised : Endpoint → Response → Prop
  | .estimate, response => response.status = 200 ∧ ∃ page detail, response.body = .json page ∧
      page.field? "estimated_count" = some (.integer 0) ∧
        page.field? "error" = some (.text detail)
  | e, response => response.status = 503 ∨ response.status = 504 ∨
      (response.status = 200 ∧ e.bearsLoss = true)

/-- What an endpoint comes to without one of its queries. -/
inductive MakesDo : Endpoint → Except Trouble Json → Prop
  | estimate {page : Json} {detail : String}
      (hcount : page.field? "estimated_count" = some (.integer 0))
      (herror : page.field? "error" = some (.text detail)) : MakesDo .estimate (.ok page)
  | page {e : Endpoint} (page : Json) (h : e.bearsLoss = true) : MakesDo e (.ok page)
  | outage {e : Endpoint} {f : Failure} (hne : e ≠ .estimate) (h : f.isOutage = true) :
      MakesDo e (.error (.failure f))

theorem promised_of_page {e : Endpoint} {response : Response} (h : e.bearsLoss = true)
    (hstatus : response.status = 200) : Promised e response := by
  cases e with
  | recalculate | resolve | campaignAudience | campaignReach => exact .inr (.inr ⟨hstatus, rfl⟩)
  | _ => cases h

theorem promised_of_outage {e : Endpoint} {response : Response} (hne : e ≠ .estimate)
    (h : response.status = 503 ∨ response.status = 504) : Promised e response := by
  cases e with
  | estimate => exact absurd rfl hne
  | _ => exact h.imp_right .inl

theorem not_promised_of_crash {e : Endpoint} {response : Response} (h : response.status = 500) :
    ¬ Promised e response := by
  cases e <;> simp [Promised, h]

namespace Outcome

def LosesQuery (o : Outcome) : Prop := ∃ e ∈ o.events, e.isLoss = true

/-- What goes wrong is something that there is an answer to. -/
def IsForeseen (o : Outcome) : Prop :=
  ∀ trouble, o.answer = .error trouble → ∃ c, trouble.complaint = .ok c

end Outcome

theorem exists_complaint_of_isOutage {f : Failure} (h : f.isOutage = true) :
    ∃ c, (Trouble.failure f).complaint = .ok c ∧ (c.status = 503 ∨ c.status = 504) := by
  cases f with
  | storeTimeout seconds operation => exact ⟨_, rfl, .inr rfl⟩
  | storeError operation label => exact ⟨_, rfl, .inl rfl⟩
  | resolution count failures => exact ⟨_, rfl, .inl rfl⟩
  | _ => cases h

theorem countedEntry_of_whole {e : RecountEntry} {n : Int} (h : e.count = .whole n) :
    countedEntry e = .ok e := by
  cases e
  cases h
  rfl

theorem mapM_countedEntry {entries : List RecountEntry}
    (h : ∀ e ∈ entries, ∃ n, e.count = .whole n) : entries.mapM countedEntry = .ok entries := by
  induction entries with
  | nil => rfl
  | cons e rest ih =>
      obtain ⟨n, hn⟩ := h e List.mem_cons_self
      have hrest := ih fun other hother => h other (List.mem_cons_of_mem e hother)
      rw [List.mapM_cons, countedEntry_of_whole hn, hrest]
      rfl

namespace Service

open Traced

section Outcomes

variable {α : Type} {store : Store} {t : Traced α} {page : α → Except Crash Json}

theorem answer_ofTraced_of_ok {a : α} (h : t.outcome = .ok a) :
    (ofTraced store t page).answer = (page a).mapError .crash := by
  rw [ofTraced, h]
  rfl

theorem answer_ofTraced_of_error {f : Failure} (h : t.outcome = .error f) :
    (ofTraced store t page).answer = .error (.failure f) := by
  rw [ofTraced, h]
  rfl

theorem isForeseen_of_ofTraced (h : (ofTraced store t page).IsForeseen) : t.IsForeseen := by
  intro f hf
  obtain ⟨c, hc⟩ := h (.failure f) (answer_ofTraced_of_error hf)
  unfold Trouble.complaint at hc
  dsimp only at hc
  cases hkind : f.kind? with
  | some kind => rfl
  | none =>
      rw [hkind] at hc
      cases hc

variable {e : Endpoint}

theorem makesDo_of_failsOfStore (hne : e ≠ .estimate) (h : t.FailsOfStore) :
    MakesDo e (ofTraced store t page).answer := by
  obtain ⟨f, hout, hf⟩ := h
  rw [answer_ofTraced_of_error hout]
  exact .outage hne (Failure.isOutage_of_isOfStore hf)

theorem makesDo_of_survives (hbears : e.bearsLoss = true) (h : t.Survives)
    (hpage : ∀ a, t.outcome = .ok a → ∃ value, page a = .ok value) :
    MakesDo e (ofTraced store t page).answer := by
  cases hout : t.outcome with
  | error f =>
      have hne : e ≠ .estimate := by
        rintro rfl
        cases hbears
      rw [answer_ofTraced_of_error hout]
      exact .outage hne (h f hout)
  | ok a =>
      obtain ⟨value, hvalue⟩ := hpage a hout
      rw [answer_ofTraced_of_ok hout, hvalue]
      exact .page value hbears

end Outcomes

theorem makesDo_resolve (s : Service) {session : Session} {body : Option Json}
    (hlost : (s.resolve session body).LosesQuery)
    (hforeseen : (s.resolve session.restored body).IsForeseen) :
    MakesDo .resolve (s.resolve session body).answer := by
  unfold resolve at hlost hforeseen ⊢
  cases hread : readSegmentIds body with
  | error issues =>
      rw [hread] at hlost
      obtain ⟨_, hev, -⟩ := hlost
      cases hev
  | ok segmentIds =>
      rw [hread] at hforeseen
      exact makesDo_of_survives rfl
        (Session.resolveUnion_survives (isForeseen_of_ofTraced hforeseen)) fun a _ => ⟨_, rfl⟩

section Endpoints

variable (s : Service) {session : Session} (h : session.FailsPlainly)
include h

theorem makesDo_estimate {now : Moment} (hclock : s.clock = .ok now) {body : Option Json}
    (hlost : (s.estimate session body).LosesQuery) :
    MakesDo .estimate (s.estimate session body).answer := by
  unfold estimate at hlost ⊢
  obtain ⟨ev, hev, hloss⟩ := hlost
  cases hread : readConditions s.freshConditionId body with
  | error issues =>
      rw [hread] at hev
      cases hev
  | ok conditions =>
      rw [hread] at hev
      rcases List.mem_append.mp hev with hcriteria | hestimate
      · unfold Criteria.events at hcriteria
        split at hcriteria
        · cases hcriteria
        · rw [List.mem_singleton.mp hcriteria] at hloss
          cases hloss
      · obtain ⟨detail, skipped, hout⟩ := h.estimate_of_lost ⟨ev, hestimate, hloss⟩
        dsimp only
        rw [answer_ofTraced_of_ok hout, hclock]
        exact .estimate rfl rfl

theorem makesDo_recalculate {now : Moment} (hclock : s.clock = .ok now)
    (hwhole : session.database.store.CountsWhole)
    (hforeseen : session.restored.recount.2.IsForeseen) :
    MakesDo .recalculate
      (ofTraced session.recount.1 session.recount.2 (recountPage s.clock)).answer := by
  refine makesDo_of_survives rfl (h.recount_survives hforeseen) fun entries hout => ?_
  have hcounted := mapM_countedEntry (Session.whole_of_recount_outcome hwhole hout)
  unfold recountPage
  rw [hcounted, hclock]
  exact ⟨_, rfl⟩

/-- An endpoint makes do without its queries, as long as nothing else is wrong. -/
theorem makesDo_perform {now : Moment} (hclock : s.clock = .ok now)
    (hwhole : session.database.store.CountsWhole) {body : Option Json} {e : Endpoint}
    (hlost : (s.perform session body e).LosesQuery)
    (hforeseen : (s.perform session.restored body e).IsForeseen) :
    MakesDo e (s.perform session body e).answer := by
  cases e with
  | root | health | categories =>
      obtain ⟨_, hev, -⟩ := hlost
      cases hev
  | estimate => exact s.makesDo_estimate h hclock hlost
  | statistics => exact makesDo_of_failsOfStore (by simp) (h.weakens_statistics.lost hlost)
  | recalculate => exact s.makesDo_recalculate h hclock hwhole (isForeseen_of_ofTraced hforeseen)
  | segmentAudience id =>
      exact makesDo_of_failsOfStore (by simp) ((h.weakens_resolveSegment id).lost hlost)
  | resolve => exact s.makesDo_resolve hlost hforeseen
  | campaignAudience id | campaignReach id =>
      exact makesDo_of_survives rfl
        (h.resolveCampaign_survives hlost (isForeseen_of_ofTraced hforeseen)) fun a _ => ⟨_, rfl⟩

end Endpoints

/-- The service with its database in order. -/
def restored (s : Service) : Service := { s with database := s.database.restored }

/-- Nothing is wrong around a request but that queries fail or are given up. The clock shows a
time, what is to be said can be said, and with the database in order the request would not end in a
crash. -/
structure OnlyQueriesFail (s : Service) (r : Request) (e : Endpoint) : Prop where
  faults : s.database.FailsPlainly
  timeout : ∃ seconds, Session.toldSeconds s.settings.storeTimeout = .ok seconds
  clock : ∃ now, s.clock = .ok now
  place : ∃ path, r.place = .ok path
  counts : s.database.store.CountsWhole
  page : ∀ page, (s.run r e).answer = .ok page → ∃ text, page.payload = .ok text
  problem : ∀ trouble c path now, (s.run r e).answer = .error trouble →
    trouble.complaint = .ok c → r.place = .ok path → s.clock = .ok now →
      ∃ text, (written (s.requestId r) path now c).payload = .ok text
  foreseen : (s.restored.handle r).2.2.status ≠ 500

/-- A query of a request is lost: the one that looks up the merchant, or one of the endpoint's. -/
def LosesQuery (s : Service) (r : Request) (e : Endpoint) (subject : String) : Prop :=
  s.database.breakdown? (merchantQuery subject) ≠ none ∨ (s.run r e).LosesQuery

variable {s : Service} {r : Request} {e : Endpoint} {subject : String} {m : Merchant}

section Reaching

variable (h : s.Reaches r e subject m)
include h

theorem Reaches.restored : s.restored.Reaches r e subject m :=
  ⟨h.found, h.guarded, h.readable, h.identified, h.named, h.stored⟩

theorem Reaches.isForeseen (hstatus : (s.handle r).2.2.status ≠ 500) :
    (s.run r e).IsForeseen := by
  intro trouble htrouble
  cases hcomplaint : trouble.complaint with
  | ok c => exact ⟨c, rfl⟩
  | error c =>
      refine absurd (h.status_of_crash (c := c) ?_) hstatus
      rw [htrouble, respond_of_crash hcomplaint]

/-- A request that loses its merchant ends in a crash. -/
theorem Reaches.status_of_lostLookup
    (hlookup : s.database.breakdown? (merchantQuery subject) ≠ none) :
    (s.handle r).2.2.status = 500 := by
  obtain ⟨b, hb⟩ := Option.ne_none_iff_exists'.mp hlookup
  refine h.status_of_crash (c := lookupCrash b) ?_
  rw [h.answer_of_breakdown hb]
  rfl

theorem Reaches.makesDo (hsound : s.OnlyQueriesFail r e)
    (hlookup : s.database.breakdown? (merchantQuery subject) = none)
    (hlost : (s.run r e).LosesQuery) : MakesDo e (s.run r e).answer := by
  obtain ⟨body, hbody⟩ := h.readable
  obtain ⟨now, hclock⟩ := hsound.clock
  have hrun := h.run_eq hlookup hbody
  -- With the database in order the same merchant is found, so that the two runs differ in their
  -- database only.
  have hrestored : s.restored.run r e =
      s.perform (s.session m.id s.clock).restored body e :=
    h.restored.run_eq (Database.breakdown?_restored hlookup) hbody
  have hforeseen := h.restored.isForeseen hsound.foreseen
  rw [hrun] at hlost ⊢
  rw [hrestored] at hforeseen
  exact s.makesDo_perform ⟨hsound.faults, hsound.timeout⟩ hclock hsound.counts hlost hforeseen

theorem Reaches.promised_of_makesDo (hsound : s.OnlyQueriesFail r e)
    (hmakes : MakesDo e (s.run r e).answer) : Promised e (s.handle r).2.2 := by
  obtain ⟨now, hclock⟩ := hsound.clock
  obtain ⟨path, hplace⟩ := hsound.place
  generalize hanswer : (s.run r e).answer = answer at hmakes
  cases hmakes with
  | estimate hcount herror =>
      obtain ⟨text, htext⟩ := hsound.page _ hanswer
      obtain ⟨hstatus, hbody⟩ := h.handle_of_page hanswer htext
      exact ⟨hstatus, _, _, hbody, hcount, herror⟩
  | page page hbears =>
      obtain ⟨text, htext⟩ := hsound.page page hanswer
      exact promised_of_page hbears (h.handle_of_page hanswer htext).1
  | outage hne houtage =>
      obtain ⟨c, hcomplaint, hc⟩ := exists_complaint_of_isOutage houtage
      obtain ⟨text, htext⟩ := hsound.problem _ c path now hanswer hcomplaint hplace hclock
      have hresponse : s.respond (s.requestId r) r.place (s.run r e).answer = .ok
          ⟨c.status, ("content-type", problemType) :: c.headers,
            .json (written (s.requestId r) path now c), none, false⟩ := by
        rw [hanswer, respond_of_complaint hcomplaint, told_eq _ _ _ hplace hclock,
          jsonResponse_eq htext]
      have hstatus := (h.handle_of_response hresponse).1
      exact promised_of_outage hne (by rwa [hstatus])

end Reaching

/-- What becomes of a request that loses a query. -/
structure KeepsPromise (s : Service) (r : Request) (e : Endpoint) (subject : String) : Prop where
  promised_iff : Promised e (s.handle r).2.2 ↔
    s.database.breakdown? (merchantQuery subject) = none
  crash : s.database.breakdown? (merchantQuery subject) ≠ none → (s.handle r).2.2.status = 500

section Estimating

/-- A request for an estimate of no conditions. -/
def estimateRequest : Request :=
  Sample.request "POST" "/api/v2/segments/estimate" "\x7b\"conditions\":[]\x7d"

/-- The merchant's service without some of its tables. -/
def lacking (missing : List Table) : Service :=
  Sample.service ⟨Sample.store [], missing, true, none⟩

theorem clock_lacking (missing : List Table) : (lacking missing).clock = .ok Sample.now := by
  have hclock : (lacking []).clock = .ok Sample.now := by decide +kernel
  exact hclock

theorem readBody_estimateRequest :
    readBody estimateRequest = .ok (some (.object [("conditions", .list [])])) := rfl

theorem reaches_estimate (missing : List Table) :
    (lacking missing).Reaches estimateRequest .estimate "user_1" ⟨"m1", "user_1"⟩ :=
  reaches_request rfl (by decide +kernel) rfl ⟨_, readBody_estimateRequest⟩

theorem run_estimateRequest (missing : List Table)
    (hlookup : (lacking missing).database.breakdown? (merchantQuery "user_1") = none) :
    (lacking missing).run estimateRequest .estimate =
      (lacking missing).perform ((lacking missing).session "m1" (lacking missing).clock)
        (some (.object [("conditions", .list [])])) .estimate :=
  (reaches_estimate missing).run_eq hlookup readBody_estimateRequest

theorem exists_payload (answer : Except Trouble Json)
    (h : (answer.toOption.map fun page => page.payload.isOk) = some true) :
    ∃ page text, answer = .ok page ∧ page.payload = .ok text := by
  cases answer with
  | error trouble => cases h
  | ok page =>
      obtain ⟨text, htext⟩ := exists_of_isOk (Option.some.inj h)
      exact ⟨page, text, rfl, htext⟩

theorem status_restored_estimate (missing : List Table) :
    ((lacking missing).restored.handle estimateRequest).2.2.status = 200 := by
  have hrun := run_estimateRequest [] (by decide +kernel)
  obtain ⟨page, text, hanswer, htext⟩ :=
    exists_payload ((lacking []).run estimateRequest .estimate).answer (by
      rw [hrun]
      decide +kernel)
  exact ((reaches_estimate []).handle_of_page hanswer htext).1

theorem onlyQueriesFail_estimate {missing : List Table}
    (hpage : ∀ page, ((lacking missing).run estimateRequest .estimate).answer = .ok page →
      ∃ text, page.payload = .ok text)
    (hproblem : ∀ trouble c, ((lacking missing).run estimateRequest .estimate).answer =
      .error trouble → trouble.complaint ≠ .ok c) :
    (lacking missing).OnlyQueriesFail estimateRequest .estimate where
  faults := by simp [Database.FailsPlainly, lacking, Sample.service]
  timeout := ⟨_, rfl⟩
  clock := ⟨Sample.now, clock_lacking missing⟩
  place := ⟨"/api/v2/segments/estimate", by decide +kernel⟩
  counts := by simp [Store.CountsWhole, lacking, Sample.service, Sample.store, Sample.segment]
  page := hpage
  problem trouble c _ _ hanswer hcomplaint := absurd hcomplaint (hproblem trouble c hanswer)
  foreseen := by simp [status_restored_estimate]

end Estimating

/-- A request that loses a query is answered as promised, unless it is the query that looks up its
merchant; then it ends in a crash. -/
theorem handle_keeps_promise (s : Service) (r : Request) (e : Endpoint) (subject : String)
    (m : Merchant) (h : s.Reaches r e subject m) (hsound : s.OnlyQueriesFail r e)
    (hlost : s.LosesQuery r e subject) : s.KeepsPromise r e subject := by
  refine ⟨⟨fun hpromised => ?_, fun hlookup => ?_⟩, h.status_of_lostLookup⟩
  · by_contra hlookup
    exact not_promised_of_crash (h.status_of_lostLookup hlookup) hpromised
  · have hrun : (s.run r e).LosesQuery := hlost.resolve_left fun hne => hne hlookup
    exact h.promised_of_makesDo hsound (h.makesDo hsound hlookup hrun)

theorem handle_keeps_promise_estimate :
    (lacking [.subscribers]).Reaches estimateRequest .estimate "user_1" ⟨"m1", "user_1"⟩ ∧
      (lacking [.subscribers]).OnlyQueriesFail estimateRequest .estimate ∧
      (lacking [.subscribers]).LosesQuery estimateRequest .estimate "user_1" ∧
      (lacking [.subscribers]).KeepsPromise estimateRequest .estimate "user_1" := by
  have hreaches := reaches_estimate [.subscribers]
  have hrun := run_estimateRequest [.subscribers] (by decide +kernel)
  obtain ⟨page, text, hanswer, htext⟩ :=
    exists_payload ((lacking [.subscribers]).run estimateRequest .estimate).answer (by
      rw [hrun]
      decide +kernel)
  have hsound : (lacking [.subscribers]).OnlyQueriesFail estimateRequest .estimate := by
    apply onlyQueriesFail_estimate
    · intro other hother
      rw [hanswer] at hother
      cases hother
      exact ⟨text, htext⟩
    · intro trouble c htrouble
      rw [hanswer] at htrouble
      cases htrouble
  have hlost : (lacking [.subscribers]).LosesQuery estimateRequest .estimate "user_1" := by
    right
    rw [hrun]
    exact List.any_eq_true.mp (by decide +kernel)
  exact ⟨hreaches, hsound, hlost, handle_keeps_promise _ _ _ _ _ hreaches hsound hlost⟩

/-- Without the table of merchants not even an estimate is answered as it promises. -/
theorem lost_lookup_breaks_promise :
    (lacking [.merchants]).Reaches estimateRequest .estimate "user_1" ⟨"m1", "user_1"⟩ ∧
      (lacking [.merchants]).OnlyQueriesFail estimateRequest .estimate ∧
      (lacking [.merchants]).LosesQuery estimateRequest .estimate "user_1" ∧
      ((lacking [.merchants]).handle estimateRequest).2.2.status = 500 ∧
      ¬ Promised .estimate ((lacking [.merchants]).handle estimateRequest).2.2 := by
  have hreaches := reaches_estimate [.merchants]
  have hlookup : (lacking [.merchants]).database.breakdown? (merchantQuery "user_1") =
      some (.driver "OperationalError") := rfl
  have hanswer := hreaches.answer_of_breakdown hlookup
  have hsound : (lacking [.merchants]).OnlyQueriesFail estimateRequest .estimate := by
    apply onlyQueriesFail_estimate
    · intro page hpage
      rw [hanswer] at hpage
      cases hpage
    · intro trouble c htrouble hcomplaint
      rw [hanswer] at htrouble
      cases htrouble
      cases hcomplaint
  have hstatus := hreaches.status_of_lostLookup (by simp [hlookup])
  exact ⟨hreaches, hsound, .inl (by simp [hlookup]), hstatus, not_promised_of_crash hstatus⟩

end Service

end Targeting.Http
