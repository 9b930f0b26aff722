import Targeting.Proofs.Isolation
import Targeting.Proofs.Pages

/-!
The service over http refines the operations of a session. Each endpoint stands for one operation:
a request leaves the store that the operation leaves, and is answered with what the operation has
found or with how it has failed. One thing comes in between: a page that quotes half of a surrogate
pair out of the request has no bytes, and the request for it ends in a crash.
-/

namespace Targeting

attribute [local irreducible] Condition.formula

/-- A failure that speaks of single segments does name some. -/
def Failure.NamesSegments (f : Failure) : Prop :=
  ∀ count failures, f = .resolution count failures → failures ≠ []

theorem Failure.namesSegments_of_isBreakdown {f : Failure} (h : f.isBreakdown = true) :
    f.NamesSegments := by
  rintro count failures rfl
  cases h

namespace Session

open Traced

variable {s : Session} {f : Failure}

theorem namesSegments_of_limitFailure? (h : limitFailure? s.concurrency = some f) :
    f.NamesSegments := by
  rintro count failures rfl
  unfold limitFailure? at h
  split at h
  · split at h <;> cases h
  · split at h <;> cases h
  · cases h
  · cases h

theorem namesSegments_of_resolveUnion {segmentIds : List String}
    (h : (s.resolveUnion segmentIds).outcome = .error f) : f.NamesSegments := by
  cases hlimit : limitFailure? s.concurrency with
  | some g =>
      have hfails : segmentIds ≠ [] ∧ g = f := by
        unfold resolveUnion at h
        rw [hlimit] at h
        cases segmentIds with
        | nil => cases h
        | cons id rest =>
            cases h
            exact ⟨List.cons_ne_nil id rest, rfl⟩
      rw [← hfails.2]
      exact namesSegments_of_limitFailure? hlimit
  | none =>
      rcases resolveUnion_cases hlimit segmentIds with ⟨⟨hne, hbroken⟩, hout⟩ | ⟨-, hout⟩
      · rw [hout] at h
        cases h
        rintro count failures ⟨⟩
        rw [failures_resolveEach hbroken]
        obtain ⟨id, hid⟩ := List.exists_mem_of_ne_nil _ hne
        exact List.ne_nil_of_mem (List.mem_map_of_mem ((mem_distinct id segmentIds).mpr hid))
      · rw [hout] at h
        cases h

theorem namesSegments_of_targets {campaignId : String}
    (h : (s.targets campaignId).outcome = .error f) : f.NamesSegments := by
  rcases error_of_outcome_bind h with hasked | ⟨found, -, hfound⟩
  · exact Failure.namesSegments_of_isBreakdown (s.onlyBreaksDown_ask _ _ f hasked)
  · cases found with
    | none =>
        cases hfound
        rintro count failures ⟨⟩
    | some campaign =>
        exact Failure.namesSegments_of_isBreakdown (s.onlyBreaksDown_ask _ _ f hfound)

theorem onlyBreaksDown_estimate (s : Session) (conditions : List Condition) :
    (s.estimate conditions).OnlyBreaksDown := by
  refine (s.onlyBreaksDown_predicate _).bind fun p => ?_
  refine (onlyBreaksDown_of_ok (a := ()) rfl).bind fun _ => ?_
  have hcount : (s.count p).OnlyBreaksDown := s.onlyBreaksDown_ask _ _
  intro g hg
  unfold estimatePredicate at hg
  dsimp only at hg
  -- A count that fails in the store is an estimate all the same; any other failure is passed on.
  split at hg
  · cases hg
  next failed hfailed =>
    split at hg
    · cases hg
    · cases hg
      exact hcount _ hfailed

theorem onlyBreaksDown_statistics (s : Session) : s.statistics.OnlyBreaksDown := by
  refine (s.onlyBreaksDown_ask _ _).bind fun total => ?_
  refine (s.onlyBreaksDown_ask _ _).bind fun active => ?_
  refine (s.onlyBreaksDown_ask _ _).bind fun subscribers => ?_
  exact onlyBreaksDown_of_ok rfl

theorem isBreakdown_of_interruption? {now : Moment} {g : Segment}
    (h : s.interruption? now g = some f) : f.isBreakdown = true := by
  have hcount : (s.countWithin g.id (s.predicateOf now (s.rowsOf g))).OnlyBreaksDown :=
    s.onlyBreaksDown_ask _ _
  unfold interruption? at h
  split at h
  · cases h
  next failed hfailed =>
    split at h
    · cases h
    · cases h
      exact hcount _ hfailed

theorem onlyBreaksDown_recount (s : Session) : s.recount.2.OnlyBreaksDown := by
  cases hload : s.loadLiveSegments.outcome with
  | error g =>
      have hg := s.onlyBreaksDown_loadLiveSegments g hload
      exact onlyBreaksDown_of_error (recount_of_load_error hload) hg
  | ok work =>
      cases hnow : s.now with
      | error c => exact onlyBreaksDown_of_error (recount_of_clock_error hload hnow) rfl
      | ok now =>
          have hout := (begins_of_loadLiveSegments_outcome hload hnow).recount_outcome
          cases hfirst : s.liveSegments.findSome? (s.interruption? now) with
          | none =>
              rw [hfirst] at hout
              exact onlyBreaksDown_of_ok hout
          | some g =>
              rw [hfirst] at hout
              apply onlyBreaksDown_of_error hout
              obtain ⟨segment, -, hinterrupts⟩ := List.exists_of_findSome?_eq_some hfirst
              exact isBreakdown_of_interruption? hinterrupts

/-- Whatever a session is asked to do, a failure that speaks of segments names some. -/
theorem perform_namesSegments (op : Operation) (h : (s.perform op).2.outcome = .error f) :
    f.NamesSegments := by
  cases op with
  | estimate conditions =>
      exact Failure.namesSegments_of_isBreakdown (s.onlyBreaksDown_estimate conditions f h)
  | statistics => exact Failure.namesSegments_of_isBreakdown (s.onlyBreaksDown_statistics f h)
  | recount => exact Failure.namesSegments_of_isBreakdown (s.onlyBreaksDown_recount f h)
  | resolveAudience segmentIds => exact namesSegments_of_resolveUnion h
  | campaignSegmentIds campaignId => exact namesSegments_of_targets h
  | resolveCampaign campaignId =>
      rcases error_of_outcome_bind h with htargets | ⟨segmentIds, -, hunion⟩
      · exact namesSegments_of_targets htargets
      · exact namesSegments_of_resolveUnion hunion
  | resolveSegment segmentId =>
      cases s.ending segmentId with
      | missing _ hout =>
          cases h.symm.trans hout
          rintro count failures ⟨⟩
      | inactive _ _ _ hout => cases h.symm.trans hout
      | resolved _ _ _ _ _ hout => cases h.symm.trans hout
      | broken g hg hout =>
          cases h.symm.trans hout
          exact Failure.namesSegments_of_isBreakdown hg

end Session

namespace Http

/-- A page tells what the operation of an endpoint has found. -/
inductive Tells (now : Moment) : Endpoint → (op : Operation) → op.Answer → Json → Prop
  | estimate {conditions : List Condition} {e : Estimate} {page : Json}
      (h : TellsEstimate conditions now e page) : Tells now .estimate (.estimate conditions) e page
  | statistics {t : Statistics} {page : Json} (h : TellsStatistics now t page) :
      Tells now .statistics .statistics t page
  | recalculate {entries : List RecountEntry} {page : Json} (h : TellsRecount now entries page) :
      Tells now .recalculate .recount entries page
  | segmentAudience {id : String} {a : SegmentAudience} {page : Json} (h : TellsSegment a page) :
      Tells now (.segmentAudience id) (.resolveSegment id) a page
  | resolve {segmentIds : List String} {a : Audience} {page : Json} (h : TellsAudience a page) :
      Tells now .resolve (.resolveAudience segmentIds) a page
  | campaignAudience {id : String} {a : Audience} {page : Json} (h : TellsAudience a page) :
      Tells now (.campaignAudience id) (.resolveCampaign id) a page
  | campaignReach {id : String} {a : Audience} {page : Json} (h : TellsReach id a page) :
      Tells now (.campaignReach id) (.resolveCampaign id) a page

namespace Service

/-- An endpoint asks for an operation, and what stands in the body of the request is what the
operation is asked with. -/
inductive Asks (s : Service) (body : Option Json) : Endpoint → Operation → Prop
  | estimate {conditions : List Condition}
      (h : readConditions s.freshConditionId body = .ok conditions) :
      Asks s body .estimate (.estimate conditions)
  | statistics : Asks s body .statistics .statistics
  | recalculate : Asks s body .recalculate .recount
  | segmentAudience (id : String) : Asks s body (.segmentAudience id) (.resolveSegment id)
  | resolve {segmentIds : List String} (h : readSegmentIds body = .ok segmentIds) :
      Asks s body .resolve (.resolveAudience segmentIds)
  | campaignAudience (id : String) : Asks s body (.campaignAudience id) (.resolveCampaign id)
  | campaignReach (id : String) : Asks s body (.campaignReach id) (.resolveCampaign id)

section Performing

variable {s : Service} {body : Option Json} {e : Endpoint} {op : Operation}

theorem estimate_of_read (s : Service) {conditions : List Condition}
    (h : readConditions s.freshConditionId body = .ok conditions) (session : Session) :
    (s.perform session body .estimate).store = s.database.store ∧
      (s.perform session body .estimate).answer =
        (ofTraced s.database.store (session.estimate conditions) fun found =>
          s.clock.map fun now => estimatePage conditions.length
            (Criteria.unsupportedCategories (conditions.filter (!·.isUnfilled)))
              now found).answer := by
  unfold perform estimate
  dsimp only
  rw [h]
  exact ⟨rfl, rfl⟩

theorem resolve_of_read (s : Service) {segmentIds : List String}
    (h : readSegmentIds body = .ok segmentIds) (session : Session) :
    s.perform session body .resolve =
      ofTraced s.database.store (session.resolveUnion segmentIds) fun a => .ok (audiencePage a) := by
  unfold perform resolve
  dsimp only
  rw [h]

/-- Each endpoint runs the operation that it asks for once, and writes a page of what it finds. -/
theorem Asks.perform_eq (h : s.Asks body e op) (merchantId : String) :
    ∃ page : op.Answer → Except Crash Json,
      (s.perform (s.session merchantId s.clock) body e).store =
        ((s.session merchantId s.clock).perform op).1 ∧
      (s.perform (s.session merchantId s.clock) body e).answer =
        (ofTraced ((s.session merchantId s.clock).perform op).1
          ((s.session merchantId s.clock).perform op).2 page).answer ∧
      ∀ now, s.clock = .ok now → (e = .recalculate → s.database.store.CountsWhole) →
        ∀ a, ((s.session merchantId s.clock).perform op).2.outcome = .ok a →
          ∃ value, page a = .ok value ∧ Tells now e op a value := by
  cases h with
  | @estimate conditions hread =>
      obtain ⟨hstore, hanswer⟩ := s.estimate_of_read hread (s.session merchantId s.clock)
      refine ⟨_, hstore, hanswer, ?_⟩
      intro now hclock _ a _
      rw [hclock]
      exact ⟨_, rfl, .estimate (tellsEstimate conditions now a)⟩
  | statistics =>
      refine ⟨fun t => s.clock.map fun now => statisticsPage now t, rfl, rfl, ?_⟩
      intro now hclock _ a _
      rw [hclock]
      exact ⟨_, rfl, .statistics (tellsStatistics now a)⟩
  | recalculate =>
      refine ⟨recountPage s.clock, rfl, rfl, ?_⟩
      intro now hclock hwhole a ha
      rw [hclock]
      obtain ⟨page, hpage, htells⟩ :=
        exists_recountPage now (Session.whole_of_recount_outcome (hwhole rfl) ha)
      exact ⟨page, hpage, .recalculate htells⟩
  | segmentAudience id =>
      refine ⟨fun a => .ok (segmentPage a), rfl, rfl, ?_⟩
      intro now _ _ a _
      exact ⟨_, rfl, .segmentAudience (tellsSegment a)⟩
  | resolve hread =>
      have houtcome := s.resolve_of_read hread (s.session merchantId s.clock)
      refine ⟨_, congrArg Outcome.store houtcome, congrArg Outcome.answer houtcome, ?_⟩
      intro now _ _ a _
      exact ⟨_, rfl, .resolve (tellsAudience a)⟩
  | campaignAudience id =>
      refine ⟨fun a => .ok (audiencePage a), rfl, rfl, ?_⟩
      intro now _ _ a _
      exact ⟨_, rfl, .campaignAudience (tellsAudience a)⟩
  | campaignReach id =>
      refine ⟨fun a => .ok (reachPage id a), rfl, rfl, ?_⟩
      intro now _ _ a _
      exact ⟨_, rfl, .campaignReach (tellsReach id a)⟩

end Performing

/-- A page is sent with a status. A page that has no bytes ends in a crash instead. -/
def Sends (s : Service) (r : Request) (status : Nat) (page : Json) : Prop :=
  (∃ text, page.payload = .ok text) ∧ (s.handle r).2.2.status = status ∧
      (s.handle r).2.2.body = .json page ∨
    (∃ c, page.payload = .error c) ∧ (s.handle r).2.2.status = 500

/-- Around a request everything is in order: its merchant is found, there is a time, and it has a
place. -/
structure InOrder (s : Service) (r : Request) (subject : String) (now : Moment)
    (path : String) : Prop where
  lookup : s.database.breakdown? (merchantQuery subject) = none
  clock : s.clock = .ok now
  place : r.place = .ok path

/-- A request does what an operation of its merchant does. -/
structure Refines (s : Service) (r : Request) (e : Endpoint) (m : Merchant) (op : Operation)
    (now : Moment) : Prop where
  store : (s.handle r).1 = ((s.session m.id s.clock).perform op).1
  /-- Counts that are told are whole numbers, as they are stored. -/
  returned : (e = .recalculate → s.database.store.CountsWhole) →
    ∀ a, ((s.session m.id s.clock).perform op).2.outcome = .ok a →
      ∃ page, Tells now e op a page ∧ s.Sends r 200 page
  failed : ∀ f status code, ((s.session m.id s.clock).perform op).2.outcome = .error f →
    statusAndCode? f = some (status, code) →
      ∃ problem, TellsFailure f status code problem ∧ s.Sends r status problem
  crashed : ∀ f, ((s.session m.id s.clock).perform op).2.outcome = .error f →
    statusAndCode? f = none → (s.handle r).2.2.status = 500
  /-- The errors of a problem are never an empty list. -/
  named : ∀ f, ((s.session m.id s.clock).perform op).2.outcome = .error f → f.NamesSegments
  success : (s.handle r).2.2.status = 200 →
    ∃ a, ((s.session m.id s.clock).perform op).2.outcome = .ok a

section Reaching

variable {s : Service} {r : Request} {e : Endpoint} {subject : String} {m : Merchant}
  (h : s.Reaches r e subject m)
include h

theorem Reaches.store_handle : (s.handle r).1 = (s.run r e).store := by
  unfold handle innerReply
  simp only [h.announcement?_eq_none, h.found]

theorem Reaches.sends_of_respond {status : Nat} {headers : List (String × String)} {page : Json}
    (hrespond : s.respond (s.requestId r) r.place (s.run r e).answer =
      jsonResponse status headers page) : s.Sends r status page := by
  cases hpayload : page.payload with
  | ok text =>
      rw [jsonResponse_eq hpayload] at hrespond
      obtain ⟨hstatus, hbody⟩ := h.handle_of_response hrespond
      exact .inl ⟨⟨text, hpayload⟩, hstatus, hbody⟩
  | error c =>
      have hcrash : jsonResponse status headers page = .error c := by
        rw [jsonResponse, hpayload]
        rfl
      exact .inr ⟨⟨c, hpayload⟩, h.status_of_crash (hrespond.trans hcrash)⟩

theorem Reaches.sends_of_page {page : Json} (hanswer : (s.run r e).answer = .ok page) :
    s.Sends r 200 page := by
  apply h.sends_of_respond
  rw [hanswer]
  rfl

theorem Reaches.sends_of_failure {f : Failure} {status : Nat} {code path : String} {now : Moment}
    (hanswer : (s.run r e).answer = .error (.failure f))
    (hf : statusAndCode? f = some (status, code)) (hplace : r.place = .ok path)
    (hclock : s.clock = .ok now) :
    ∃ problem, TellsFailure f status code problem ∧ s.Sends r status problem := by
  obtain ⟨c, hcomplaint, rfl, hcode, hdetail, herrors⟩ := exists_complaint_of_statusAndCode? hf
  refine ⟨written (s.requestId r) path now c,
    tellsFailure_written rfl hcode hdetail herrors _ _ _, ?_⟩
  apply h.sends_of_respond
  rw [hanswer, respond_of_complaint hcomplaint, told_eq _ _ _ hplace hclock]

theorem Reaches.status_of_unforeseen {f : Failure}
    (hanswer : (s.run r e).answer = .error (.failure f)) (hf : statusAndCode? f = none) :
    (s.handle r).2.2.status = 500 := by
  obtain ⟨c, hcomplaint⟩ := complaint_of_statusAndCode?_eq_none hf
  refine h.status_of_crash (c := c) ?_
  rw [hanswer, respond_of_crash hcomplaint]

end Reaching

theorem statusAndCode?_ne_ok {f : Failure} {status : Nat} {code : String}
    (h : statusAndCode? f = some (status, code)) : status ≠ 200 := by
  cases f <;> cases h <;> decide

theorem Sends.status_ne_ok {s : Service} {r : Request} {status : Nat} {page : Json}
    (h : s.Sends r status page) (hstatus : status ≠ 200) : (s.handle r).2.2.status ≠ 200 := by
  rcases h with ⟨-, hsent, -⟩ | ⟨-, hlost⟩
  · rw [hsent]
    exact hstatus
  · rw [hlost]
    decide

/-- The endpoints refine the operations: whatever the store holds and whatever goes wrong with its
queries, a request does what its operation does and tells what comes of it. -/
theorem handle_refines_operation (s : Service) (r : Request) (e : Endpoint) (subject : String)
    (m : Merchant) (body : Option Json) (op : Operation) (now : Moment) (path : String)
    (h : s.Reaches r e subject m) (horder : s.InOrder r subject now path)
    (hbody : (if readsBody e then readBody r else .ok none) = .ok body)
    (hasks : s.Asks body e op) : s.Refines r e m op now := by
  have hrun := h.run_eq horder.lookup hbody
  obtain ⟨page, hstore, hanswer, htells⟩ := hasks.perform_eq m.id
  rw [← hrun] at hstore hanswer
  -- From here on the endpoints look alike: a failure is passed on, and a result is written.
  have hfailure : ∀ f, ((s.session m.id s.clock).perform op).2.outcome = .error f →
      (s.run r e).answer = .error (.failure f) := by
    intro f hf
    rw [hanswer, answer_ofTraced_of_error hf]
  have hfailed : ∀ f status code, ((s.session m.id s.clock).perform op).2.outcome = .error f →
      statusAndCode? f = some (status, code) →
        ∃ problem, TellsFailure f status code problem ∧ s.Sends r status problem := by
    intro f status code hf hknown
    exact h.sends_of_failure (hfailure f hf) hknown horder.place horder.clock
  have hcrashed : ∀ f, ((s.session m.id s.clock).perform op).2.outcome = .error f →
      statusAndCode? f = none → (s.handle r).2.2.status = 500 := by
    intro f hf hunknown
    exact h.status_of_unforeseen (hfailure f hf) hunknown
  constructor
  · rw [h.store_handle, hstore]
  · intro hcounts a ha
    obtain ⟨value, hvalue, htold⟩ := htells now horder.clock hcounts a ha
    refine ⟨value, htold, h.sends_of_page ?_⟩
    rw [hanswer, answer_ofTraced_of_ok ha, hvalue]
    rfl
  · exact hfailed
  · exact hcrashed
  · intro f hf
    exact Session.perform_namesSegments op hf
  · intro hstatus
    cases hout : ((s.session m.id s.clock).perform op).2.outcome with
    | ok a => exact ⟨a, rfl⟩
    | error f =>
        cases hknown : statusAndCode? f with
        | none =>
            rw [hcrashed f hout hknown] at hstatus
            cases hstatus
        | some answer =>
            obtain ⟨status, code⟩ := answer
            obtain ⟨problem, -, hsends⟩ := hfailed f status code hout hknown
            exact absurd hstatus (hsends.status_ne_ok (statusAndCode?_ne_ok hknown))

section Resolving

/-- A request for a union that names a segment twice. -/
def resolveRequest : Request :=
  Sample.request "POST" "/api/v2/audience/resolve"
    "\x7b\"segment_ids\":[\"s1\",\"s2\",\"s1\"]\x7d"

def resolveBody : Json := .object [("segment_ids", .texts ["s1", "s2", "s1"])]

theorem readBody_resolveRequest : readBody resolveRequest = .ok (some resolveBody) := rfl

end Resolving

/-- Without its segments the service answers that each of them has failed, once. -/
theorem handle_refines_operation_outage :
    (lacking [.segments]).Reaches resolveRequest .resolve "user_1" ⟨"m1", "user_1"⟩ ∧
      (lacking [.segments]).InOrder resolveRequest "user_1" Sample.now
        "/api/v2/audience/resolve" ∧
      (if readsBody .resolve then readBody resolveRequest else .ok none) =
        .ok (some resolveBody) ∧
      (lacking [.segments]).Asks (some resolveBody) .resolve
        (.resolveAudience ["s1", "s2", "s1"]) ∧
      (((lacking [.segments]).session "m1" (lacking [.segments]).clock).perform
        (.resolveAudience ["s1", "s2", "s1"])).2.outcome =
          .error (.resolution 3
            [("s1", "Subscriber store segment lookup failed: OperationalError"),
              ("s2", "Subscriber store segment lookup failed: OperationalError")]) ∧
      (lacking [.segments]).Refines resolveRequest .resolve ⟨"m1", "user_1"⟩
        (.resolveAudience ["s1", "s2", "s1"]) Sample.now := by
  have hreaches : (lacking [.segments]).Reaches resolveRequest .resolve "user_1"
      ⟨"m1", "user_1"⟩ :=
    reaches_request rfl (by decide +kernel) rfl ⟨_, readBody_resolveRequest⟩
  have horder : (lacking [.segments]).InOrder resolveRequest "user_1" Sample.now
      "/api/v2/audience/resolve" :=
    ⟨by decide +kernel, clock_lacking _, by decide +kernel⟩
  have hasks : (lacking [.segments]).Asks (some resolveBody) .resolve
      (.resolveAudience ["s1", "s2", "s1"]) := .resolve rfl
  exact ⟨hreaches, horder, readBody_resolveRequest, hasks, by rfl,
    handle_refines_operation _ _ _ _ _ _ _ _ _ hreaches horder readBody_resolveRequest hasks⟩

section HalfPair

/-- The second half of a surrogate pair, without the first. -/
def halfPair : String := String.ofList (Text.written 0xDFFF)

/-- A request for an estimate that quotes half of a surrogate pair. -/
def halfPairRequest : Request :=
  Sample.request "POST" "/api/v2/segments/estimate"
    "\x7b\"conditions\":[\x7b\"category\":\"browser\",\"operator\":\"\\udfff\"\x7d]\x7d"

def halfPairBody : Json :=
  .object [("conditions", .list [.object [("category", .text "browser"),
    ("operator", .text halfPair)]])]

def halfPairCondition : Condition :=
  { Sample.condition "browser" "" .all with
    operator := halfPair
    value := none
    join := none }

theorem readBody_halfPairRequest : readBody halfPairRequest = .ok (some halfPairBody) := rfl

theorem readConditions_halfPairBody :
    readConditions "c" (some halfPairBody) = .ok [halfPairCondition] := rfl

theorem exists_unsendable (answer : Except Trouble Json)
    (h : (answer.toOption.map fun page => page.payload.isOk) = some false) :
    ∃ page, answer = .ok page ∧ ∀ text, page.payload ≠ .ok text := by
  cases answer with
  | error trouble => cases h
  | ok page =>
      refine ⟨page, rfl, ?_⟩
      intro text htext
      have hsent : page.payload.isOk = false := Option.some.inj h
      rw [htext] at hsent
      cases hsent

end HalfPair

/-- An estimate returns, and the request for it ends in a crash all the same. -/
theorem half_pair_crashes_estimate :
    (lacking []).Reaches halfPairRequest .estimate "user_1" ⟨"m1", "user_1"⟩ ∧
      (lacking []).InOrder halfPairRequest "user_1" Sample.now
        "/api/v2/segments/estimate" ∧
      (if readsBody .estimate then readBody halfPairRequest else .ok none) =
        .ok (some halfPairBody) ∧
      (lacking []).Asks (some halfPairBody) .estimate (.estimate [halfPairCondition]) ∧
      (∃ a, (((lacking []).session "m1" (lacking []).clock).perform
        (.estimate [halfPairCondition])).2.outcome = .ok a) ∧
      ((lacking []).handle halfPairRequest).2.2.status = 500 := by
  have hreaches : (lacking []).Reaches halfPairRequest .estimate "user_1" ⟨"m1", "user_1"⟩ :=
    reaches_request rfl (by decide +kernel) rfl ⟨_, readBody_halfPairRequest⟩
  have horder : (lacking []).InOrder halfPairRequest "user_1" Sample.now
      "/api/v2/segments/estimate" :=
    ⟨by decide +kernel, clock_lacking _, by decide +kernel⟩
  have hasks : (lacking []).Asks (some halfPairBody) .estimate (.estimate [halfPairCondition]) :=
    .estimate readConditions_halfPairBody
  have hreturns : ∃ a, (((lacking []).session "m1" (lacking []).clock).perform
      (.estimate [halfPairCondition])).2.outcome = .ok a := by
    apply exists_of_isOk
    decide +kernel
  refine ⟨hreaches, horder, readBody_halfPairRequest, hasks, hreturns, ?_⟩
  have hrun := hreaches.run_eq horder.lookup readBody_halfPairRequest
  obtain ⟨page, hanswer, hunsendable⟩ :=
    exists_unsendable ((lacking []).run halfPairRequest .estimate).answer (by
      rw [hrun]
      decide +kernel)
  rcases hreaches.sends_of_page hanswer with ⟨⟨text, htext⟩, -⟩ | ⟨-, hcrashed⟩
  · exact absurd htext (hunsendable text)
  · exact hcrashed

end Service

end Http

end Targeting
