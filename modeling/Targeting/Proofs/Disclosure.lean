import Targeting.Proofs.Pages
import Targeting.Proofs.Responses
import Targeting.Proofs.Words

/-!
What a client learns of a crash. Where internals are not shown, the reply to a crash is the same for
all crashes, and so the words of what went wrong in the store change nothing about any response.
Where they are shown, the words stand in the detail of the crash, but never in what is said of
single segments.
-/

namespace Targeting

attribute [local irreducible] Condition.formula

namespace Http

/-- The trouble without the words of its crash. -/
def Trouble.hushed : Trouble → Trouble
  | .failure f => .failure f.hushed
  | .crash c => .crash c.hushed
  | trouble => trouble

/-- The outcome without the words of the crash that it may be. -/
def Outcome.hushed (o : Outcome) : Outcome := ⟨o.store, o.events, o.answer.mapError Trouble.hushed⟩

/-- A member of the value that a response carries. -/
def Response.member? (response : Response) (name : String) : Option Json :=
  match response.body with
  | .json value => value.field? name
  | _ => none

/-- The members in which something is said of single segments. -/
def segmentMembers : List String := ["per_segment_breakdown", "segment_breakdown", "errors"]

theorem breakdownJson_hushed (a : Audience) : breakdownJson a.hushed = breakdownJson a := by
  simp [breakdownJson, Audience.hushed, Function.comp_def]

theorem audiencePage_hushed (a : Audience) : audiencePage a.hushed = audiencePage a := by
  have hcount : a.hushed.entries.length = a.entries.length := List.length_map _
  simp [audiencePage, breakdownJson_hushed, hcount]

theorem reachPage_hushed (campaignId : String) (a : Audience) :
    reachPage campaignId a.hushed = reachPage campaignId a := by
  simp [reachPage, breakdownJson_hushed]

namespace Service

theorem hushed_ofTraced {α : Type} {t t' : Traced α} (h : t'.hushed = t.hushed) (store : Store)
    (page : α → Except Crash Json) :
    (ofTraced store t' page).hushed = (ofTraced store t page).hushed := by
  obtain ⟨hevents, ⟨a, ht', ht⟩ | ⟨f, g, ht', ht, hfg⟩⟩ := Traced.hushed_cases h
  · simp only [ofTraced, hevents, ht, ht']
  · simp only [ofTraced, hevents, ht, ht', Outcome.hushed, Except.mapError, Except.bind,
      Trouble.hushed, hfg]

/-- A page of an audience for which the words of crashes do not matter. -/
theorem hushed_ofTraced_audience {t t' : Traced Audience}
    (h : (t'.seen Audience.hushed).hushed = (t.seen Audience.hushed).hushed) (store : Store)
    {page : Audience → Json} (hpage : ∀ a, page a.hushed = page a) :
    (ofTraced store t' fun a => .ok (page a)).hushed =
      (ofTraced store t fun a => .ok (page a)).hushed := by
  have hseen : ∀ x : Traced Audience, (ofTraced store x fun a => .ok (page a)) =
      ofTraced store (x.seen Audience.hushed) fun a => .ok (page a) := by
    intro x
    unfold ofTraced Traced.seen
    cases x.outcome with
    | error f => rfl
    | ok a => simp only [Except.map, Except.mapError, Except.bind, hpage]
  rw [hseen t, hseen t']
  exact hushed_ofTraced h store _

section Words

variable {s : Service} {other : Database} (h : s.database.SameButWords other)
include h

theorem hushed_perform (merchantId : String) (body : Option Json) (e : Endpoint) :
    ((s.withDatabase other).perform ((s.withDatabase other).session merchantId s.clock)
        body e).hushed = (s.perform (s.session merchantId s.clock) body e).hushed := by
  have hsession : (s.withDatabase other).session merchantId s.clock =
      (s.session merchantId s.clock).withDatabase other := rfl
  have hstore : (s.withDatabase other).database.store = s.database.store := h.store
  have hclock : (s.withDatabase other).clock = s.clock := rfl
  have hwords : (s.session merchantId s.clock).database.SameButWords other := h
  rw [hsession]
  cases e with
  | root | health | categories =>
      exact congrArg (fun store => Outcome.hushed ⟨store, [], _⟩) hstore
  | estimate =>
      have hid : (s.withDatabase other).freshConditionId = s.freshConditionId := rfl
      unfold perform estimate unchanged
      dsimp only
      rw [hstore, hclock, hid]
      cases readConditions s.freshConditionId body with
      | error issues => rfl
      | ok conditions =>
          have houtcome := hushed_ofTraced (Session.hushed_estimate hwords conditions)
            s.database.store fun e => s.clock.map fun now => estimatePage conditions.length
              (Criteria.unsupportedCategories (conditions.filter (!·.isUnfilled))) now e
          exact congrArg (fun o : Outcome => (⟨o.store, Criteria.events
            (conditions.filter (!·.isUnfilled)) ++ o.events, o.answer⟩ : Outcome)) houtcome
  | statistics =>
      unfold perform
      dsimp only
      rw [hstore, hclock]
      exact hushed_ofTraced (Session.hushed_statistics hwords) _ _
  | recalculate =>
      obtain ⟨hrecounted, hfound⟩ := Session.hushed_recount hwords
      unfold perform
      dsimp only
      rw [hrecounted, hclock]
      exact hushed_ofTraced hfound _ _
  | segmentAudience id =>
      unfold perform
      dsimp only
      rw [hstore]
      exact hushed_ofTraced (Session.hushed_resolveSegment hwords id) _ _
  | resolve =>
      unfold perform resolve unchanged
      dsimp only
      rw [hstore]
      cases readSegmentIds body with
      | error issues => rfl
      | ok segmentIds =>
          refine hushed_ofTraced_audience ?_ _ audiencePage_hushed
          rw [Session.hushed_resolveUnion hwords]
  | campaignAudience id =>
      unfold perform
      dsimp only
      rw [hstore]
      exact hushed_ofTraced_audience (Session.hushed_resolveCampaign hwords id) _
        audiencePage_hushed
  | campaignReach id =>
      unfold perform
      dsimp only
      rw [hstore]
      exact hushed_ofTraced_audience (Session.hushed_resolveCampaign hwords id) _
        (reachPage_hushed id)

theorem hushed_merchantOf (subject : String) :
    ((s.withDatabase other).merchantOf subject).mapError Trouble.hushed =
      (s.merchantOf subject).mapError Trouble.hushed := by
  have hstore : (s.withDatabase other).database.store = s.database.store := h.store
  have hother : (s.withDatabase other).database.breakdown? (merchantQuery subject) =
      other.breakdown? (merchantQuery subject) := rfl
  unfold merchantOf
  rw [hstore, hother]
  rcases h.breakdown?_cases (merchantQuery subject) with heq | ⟨c, c', hc, hc', hcc⟩
  · rw [heq]
  · rw [hc, hc']
    exact congrArg (fun c => Except.error (Trouble.crash c)) hcc

theorem hushed_merchant (r : Request) :
    ((s.withDatabase other).merchant r).1 = (s.merchant r).1 ∧
      ((s.withDatabase other).merchant r).2.mapError Trouble.hushed =
        (s.merchant r).2.mapError Trouble.hushed := by
  have hsettings : (s.withDatabase other).settings = s.settings := rfl
  have hnow : (s.withDatabase other).secondsNow = s.secondsNow := rfl
  unfold merchant
  rw [hsettings, hnow]
  cases r.bearerToken? with
  | none => exact ⟨rfl, rfl⟩
  | some token =>
      dsimp only
      cases Token.subject token s.settings.secretKey s.settings.algorithm s.secondsNow with
      | error refusal => cases refusal <;> exact ⟨rfl, rfl⟩
      | ok value =>
          cases value with
          | text subject =>
              refine ⟨rfl, ?_⟩
              dsimp only
              split
              · rfl
              · exact hushed_merchantOf h subject
          | _ => exact ⟨rfl, rfl⟩

theorem hushed_run (r : Request) (e : Endpoint) :
    ((s.withDatabase other).run r e).hushed = (s.run r e).hushed := by
  have hclock : (s.withDatabase other).clock = s.clock := rfl
  have hstore : (s.withDatabase other).database.store = s.database.store := h.store
  obtain ⟨hevents, hfound⟩ := hushed_merchant h r
  rcases hother : (s.withDatabase other).merchant r with ⟨events', found'⟩
  rcases hmerchant : s.merchant r with ⟨events, found⟩
  rw [hother, hmerchant] at hevents hfound
  obtain rfl : events' = events := hevents
  unfold run unchanged
  rw [hclock, hstore, hother, hmerchant]
  split
  · exact hushed_perform h "" none e
  · split
    · rfl
    · rename_i body _
      cases found' with
      | error trouble' =>
          cases found with
          | error trouble =>
              exact congrArg (fun t => (⟨s.database.store, events', .error t⟩ : Outcome))
                (Except.error.inj hfound)
          | ok m => cases hfound
      | ok m' =>
          cases found with
          | error trouble => cases hfound
          | ok m =>
              obtain rfl : m' = m := Except.ok.inj hfound
              have hperformed := hushed_perform h m'.id body e
              exact congrArg
                (fun o : Outcome => (⟨o.store, events' ++ o.events, o.answer⟩ : Outcome)) hperformed

end Words

section Replies

variable (s : Service) (id : String) (place : Except Crash String)

theorem crashed_hushed (hquiet : s.settings.showsInternals = false) (c : Crash) :
    s.crashed place c.hushed = s.crashed place c := by
  unfold crashed crashDetail
  simp only [hquiet, Bool.false_eq_true, if_false]
  rfl

/-- Answers that are the same but for words are replied to in the same way, or each of them as a
crash. -/
theorem answerReply_cases {answer answer' : Except Trouble Json}
    (h : answer'.mapError Trouble.hushed = answer.mapError Trouble.hushed) :
    s.answerReply id place answer' = s.answerReply id place answer ∨
      ∃ c c', c'.hushed = c.hushed ∧ s.answerReply id place answer' = s.crashed place c' ∧
        s.answerReply id place answer = s.crashed place c := by
  cases answer' with
  | ok page' =>
      cases answer with
      | ok page => exact .inl (congrArg (fun page => s.answerReply id place (.ok page))
          (Except.ok.inj h))
      | error trouble => cases h
  | error trouble' =>
      cases answer with
      | ok page => cases h
      | error trouble =>
          have htrouble : trouble'.hushed = trouble.hushed := Except.error.inj h
          cases trouble' with
          | crash c' =>
              cases trouble with
              | crash c => exact .inr ⟨c, c', Trouble.crash.inj htrouble, rfl, rfl⟩
              | _ => cases htrouble
          | failure f' =>
              cases trouble with
              | failure f =>
                  rcases Failure.eq_or_crash (Trouble.failure.inj htrouble) with
                    rfl | ⟨c', c, rfl, rfl, hc⟩
                  · exact .inl rfl
                  · exact .inr ⟨c, c', hc, rfl, rfl⟩
              | _ => cases htrouble
          | _ =>
              cases trouble with
              | crash c => cases htrouble
              | failure f => cases htrouble
              | _ => exact .inl (congrArg (fun trouble => s.answerReply id place (.error trouble))
                  htrouble)

end Replies

/-- The replies of the innermost layer are the same, or both stand for a crash. -/
theorem innerReply_cases {s : Service} {other : Database} (h : s.database.SameButWords other)
    (r : Request) (id : String) :
    ((s.withDatabase other).innerReply r id).1 = (s.innerReply r id).1 ∧
      (((s.withDatabase other).innerReply r id).2 = (s.innerReply r id).2 ∨
        ∃ c c' events, c'.hushed = c.hushed ∧
          ((s.withDatabase other).innerReply r id).2 =
            { s.crashed r.place c' with events := events ++ (s.crashed r.place c').events } ∧
          (s.innerReply r id).2 =
            { s.crashed r.place c with events := events ++ (s.crashed r.place c).events }) := by
  have hstore : (s.withDatabase other).database.store = s.database.store := h.store
  unfold innerReply
  dsimp only
  cases destination r.method r.address.shownPath (otherSpelling r.address.shownPath) with
  | nowhere | wrongMethod | elsewhere => exact ⟨hstore, .inl rfl⟩
  | found e =>
      have hrun := hushed_run h r e
      simp only [Outcome.hushed, Outcome.mk.injEq] at hrun
      obtain ⟨hafter, hevents, hanswer⟩ := hrun
      refine ⟨hafter, ?_⟩
      have hsame : ∀ answer, (s.withDatabase other).answerReply id r.place answer =
          s.answerReply id r.place answer := fun _ => rfl
      simp only [hsame, hevents]
      rcases s.answerReply_cases id r.place hanswer with heq | ⟨c, c', hcc, hc', hc⟩
      · exact .inl (by rw [heq])
      · exact .inr ⟨c, c', (s.run r e).events, hcc, by rw [hc'], by rw [hc]⟩

/-- A crash says nothing of single segments. -/
theorem member?_crashed {s : Service} {place : Except Crash String} {c : Crash} {name : String}
    (h : name ∈ segmentMembers) : (s.crashed place c).response.member? name = none := by
  unfold Response.member?
  split
  · rename_i value hvalue
    obtain ⟨path, now, rfl⟩ := written_of_crashed hvalue
    by_cases herrors : name = "errors"
    · rw [herrors, (field?_written _ _ _ _).2.2.2]
      rfl
    · refine field?_written_eq_none ?_ _ _ _ _
      revert name
      decide
  · rfl

theorem member?_of_crashReply {s : Service} {r : Request} {c : Crash} {events : List Event}
    (h : (s.innerReply r (s.requestId r)).2 =
      { s.crashed r.place c with events := events ++ (s.crashed r.place c).events })
    {name : String} (hname : name ∈ segmentMembers) :
    (s.handle r).2.2.member? name = none := by
  unfold handle
  cases announcement? r with
  | some announced => rfl
  | none =>
      dsimp only
      rw [h]
      by_cases hmethod : r.method = "HEAD"
      · rw [if_pos hmethod]
        rfl
      · rw [if_neg hmethod]
        exact member?_crashed (s := s) hname

/-- A request over two databases that differ in the words of their crashes alone. -/
structure HidesWords (s : Service) (other : Database) (r : Request) : Prop where
  store : ((s.withDatabase other).handle r).1 = (s.handle r).1
  /-- Outside of development the response is the same altogether. -/
  response : s.settings.isDebug = false ∨ s.settings.environment = .text "production" ∨
      s.settings.environment = .text "staging" →
    ((s.withDatabase other).handle r).2.2 = (s.handle r).2.2
  /-- Under all settings the same is said of single segments. -/
  members : ∀ name ∈ segmentMembers,
    ((s.withDatabase other).handle r).2.2.member? name = (s.handle r).2.2.member? name
  union : ∀ merchantId segmentIds,
    (((s.withDatabase other).session merchantId s.clock).resolveUnion segmentIds).outcome.map
        Audience.breakdown =
      ((s.session merchantId s.clock).resolveUnion segmentIds).outcome.map Audience.breakdown

theorem showsInternals_eq_false {settings : LiveSettings}
    (h : settings.isDebug = false ∨ settings.environment = .text "production" ∨
      settings.environment = .text "staging") : settings.showsInternals = false := by
  unfold LiveSettings.showsInternals LiveSettings.isProduction
  rcases h with h | h | h
  · rw [h, Bool.false_and]
  · rw [h]
    simp [Settings.isProductionName]
  · rw [h]
    simp [Settings.isProductionName]

theorem handle_hides_words (s : Service) (other : Database) (r : Request)
    (h : s.database.SameButWords other) : s.HidesWords other r := by
  obtain ⟨hstore, hreply⟩ := innerReply_cases h r (s.requestId r)
  constructor
  · have hid : (s.withDatabase other).requestId r = s.requestId r := rfl
    have hbefore : (s.withDatabase other).database.store = s.database.store := h.store
    rw [store_of_handle, store_of_handle, hid, hstore, hbefore]
  · intro hsettings
    have hquiet := showsInternals_eq_false hsettings
    refine congrArg Prod.snd (handle_withDatabase ?_)
    rcases hreply with hsame | ⟨c, c', events, hcc, hc', hc⟩
    · exact hsame
    · rw [hc', hc, ← s.crashed_hushed r.place hquiet c', hcc, s.crashed_hushed r.place hquiet c]
  · intro name hname
    rcases hreply with hsame | ⟨c, c', events, -, hc', hc⟩
    · rw [handle_withDatabase hsame]
    · rw [member?_of_crashReply hc hname]
      exact member?_of_crashReply (s := s.withDatabase other) hc' hname
  · intro merchantId segmentIds
    exact Session.breakdown_resolveUnion (s := s.session merchantId s.clock) h segmentIds

/-- A database whose subscribers cannot be read for a reason that is told in the given words. -/
def wordy (words : String) : Database :=
  ⟨Sample.store [], [], true,
    some (Fault.pattern ⟨.subscribers, .crash ⟨"RuntimeError", some words⟩, none⟩)⟩

theorem sameButWords_wordy (words others : String) : (wordy words).SameButWords (wordy others) where
  store := rfl
  missing := rfl
  isReachable := rfl
  faults q := by
    have hfault : ∀ text, (wordy text).fault.bind (·.breakdown? q) =
        if .subscribers = q.table then some (.crash ⟨"RuntimeError", some text⟩) else none := by
      intro text
      simp [wordy, Fault.pattern, Fault.hits]
    rw [hfault, hfault]
    split <;> rfl

/-- The words of a crash do not leave a service in production. -/
theorem handle_hides_words_production :
    (wordy "boom").SameButWords (wordy "u1@example.org") ∧
      (Sample.service (wordy "boom")).HidesWords (wordy "u1@example.org")
        (Sample.request "GET" "/api/v2/segments/estimate" "") :=
  ⟨sameButWords_wordy _ _, handle_hides_words _ _ _ (sameButWords_wordy _ _)⟩

end Service

end Http

end Targeting
