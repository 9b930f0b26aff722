import Targeting.Audience.ErrorKind
import Targeting.Proofs.Figures
import Targeting.Proofs.Outage

/-!
What a session loses when a query is lost. Beside each run stands the run that it would have been
with the database in order: a run comes to the same as that, or the store fails it, and the store
does fail it when one of its queries is lost. Only an estimate, a union and a recount can do with
less than all of their queries.
-/

namespace Targeting

attribute [local irreducible] Condition.formula

/-- An event that tells of a query without an answer. -/
def Event.isLoss : Event → Bool
  | .queryFailed _ _ | .queryTimedOut _ _ => true
  | _ => false

/-- The store does not answer, or a union has nothing left to stand on. -/
def Failure.isOutage : Failure → Bool
  | .storeTimeout _ _ | .storeError _ _ | .resolution _ _ => true
  | _ => false

theorem Failure.isOutage_of_isOfStore {f : Failure} (h : f.isOfStore = true) :
    f.isOutage = true := by
  cases f with
  | storeTimeout | storeError => rfl
  | _ => cases h

namespace Traced

variable {α β : Type}

def LosesQuery (x : Traced α) : Prop := ∃ e ∈ x.events, e.isLoss = true

/-- The store fails the run. -/
def FailsOfStore (x : Traced α) : Prop := ∃ f, x.outcome = .error f ∧ f.isOfStore = true

/-- The run fails in no way that nobody provides for. -/
def IsForeseen (x : Traced α) : Prop := ∀ f, x.outcome = .error f → f.kind?.isSome = true

/-- The run fails for want of the store, or not at all. -/
def Survives (x : Traced α) : Prop := ∀ f, x.outcome = .error f → f.isOutage = true

/-- A run beside the one that it would have been with everything in order. -/
structure Weakens (x y : Traced α) : Prop where
  outcome : x.outcome = y.outcome ∨ x.FailsOfStore
  lost : x.LosesQuery → x.FailsOfStore

theorem FailsOfStore.bind {x : Traced α} (h : x.FailsOfStore) (next : α → Traced β) :
    (x >>= next).FailsOfStore := by
  obtain ⟨f, hout, hf⟩ := h
  exact ⟨f, outcome_bind_of_error hout next, hf⟩

theorem FailsOfStore.survives {x : Traced α} (h : x.FailsOfStore) : x.Survives := by
  obtain ⟨f, hout, hf⟩ := h
  intro g hg
  rw [hout] at hg
  cases hg
  exact Failure.isOutage_of_isOfStore hf

/-- A run in two steps that loses a query loses it at one of them. -/
theorem losesQuery_bind {x : Traced α} {next : α → Traced β} (h : (x >>= next).LosesQuery) :
    x.LosesQuery ∨ ∃ a, x.outcome = .ok a ∧ (next a).LosesQuery := by
  obtain ⟨e, he, hloss⟩ := h
  change e ∈ (x.bind next).events at he
  unfold Traced.bind at he
  cases hx : x.outcome with
  | error f =>
      rw [hx] at he
      exact .inl ⟨e, he, hloss⟩
  | ok a =>
      rw [hx] at he
      rcases List.mem_append.mp he with hfirst | hsecond
      · exact .inl ⟨e, hfirst, hloss⟩
      · exact .inr ⟨a, rfl, e, hsecond, hloss⟩

theorem Weakens.bind {x y : Traced α} {next other : α → Traced β} (h : x.Weakens y)
    (hnext : ∀ a, (next a).Weakens (other a)) : (x >>= next).Weakens (y >>= other) := by
  constructor
  · rcases h.outcome with hsame | hfails
    · cases hx : x.outcome with
      | error f =>
          rw [hx] at hsame
          rw [outcome_bind_of_error hx, outcome_bind_of_error hsame.symm]
          exact .inl rfl
      | ok a =>
          rw [hx] at hsame
          rcases (hnext a).outcome with heq | ⟨f, hout, hf⟩
          · rw [outcome_bind_of_ok hx, outcome_bind_of_ok hsame.symm]
            exact .inl heq
          · exact .inr ⟨f, (outcome_bind_of_ok hx next).trans hout, hf⟩
    · exact .inr (hfails.bind next)
  · intro hlost
    rcases losesQuery_bind hlost with hfirst | ⟨a, hx, hsecond⟩
    · exact (h.lost hfirst).bind next
    · obtain ⟨f, hout, hf⟩ := (hnext a).lost hsecond
      exact ⟨f, (outcome_bind_of_ok hx next).trans hout, hf⟩

theorem Weakens.ok {x y : Traced α} (h : x.Weakens y) {a : α} (hx : x.outcome = .ok a) :
    y.outcome = .ok a := by
  rcases h.outcome with hsame | ⟨f, hout, -⟩
  · exact hsame.symm.trans hx
  · rw [hx] at hout
    cases hout

theorem weakens_self {x : Traced α} (h : ∀ e ∈ x.events, e.isLoss = false) : x.Weakens x := by
  refine ⟨.inl rfl, ?_⟩
  rintro ⟨e, he, hloss⟩
  rw [h e he] at hloss
  cases hloss

theorem weakens_pure (a : α) : (Pure.pure a : Traced α).Weakens (Pure.pure a) :=
  weakens_self fun _ he => (by cases he)

theorem weakens_fail (f : Failure) : (fail f : Traced α).Weakens (fail f) :=
  weakens_self fun _ he => (by cases he)

theorem weakens_tell {events : List Event} (h : ∀ e ∈ events, e.isLoss = false) :
    (tell events).Weakens (tell events) := weakens_self h

theorem weakens_of_failsOfStore {x : Traced α} (h : x.FailsOfStore) (y : Traced α) :
    x.Weakens y :=
  ⟨.inr h, fun _ => h⟩

end Traced

/-- The counts in a store are whole numbers. -/
def Store.CountsWhole (store : Store) : Prop :=
  ∀ g ∈ store.segments, ∀ n, g.count = some n → ∃ k, n = .whole k

/-- The database in order: all of it is there, within reach and without faults. -/
def Database.restored (d : Database) : Database := ⟨d.store, [], true, none⟩

/-- Faults are errors of the driver and queries that are given up, and nothing else. -/
def Database.FailsPlainly (d : Database) : Prop :=
  ∀ q c, d.fault.bind (·.breakdown? q) ≠ some (.crash c)

theorem Database.breakdown?_restored {d : Database} {q : Query} (h : d.breakdown? q = none) :
    d.restored.breakdown? q = none := by
  have htexts := ofTexts?_of_breakdown? h
  exact Option.map_eq_none_iff.mpr htexts

/-- What remains of a plainly failing query that nobody expects is its own text. -/
theorem Database.FailsPlainly.breakdown?_restored {d : Database} (hplain : d.FailsPlainly)
    {q : Query} {c : Crash} (h : d.breakdown? q = some (.crash c)) :
    d.restored.breakdown? q = some (.crash c) := by
  unfold breakdown? at h
  split at h
  · rename_i b hfault
    rw [h] at hfault
    exact absurd hfault (hplain q c)
  · split at h
    · cases h
    · exact h

namespace Session

open Traced

/-- The session with its database in order. -/
def restored (s : Session) : Session := { s with database := s.database.restored }

/-- The database of a session fails plainly, and the session has words for a query that is given
up. -/
structure FailsPlainly (s : Session) : Prop where
  database : s.database.FailsPlainly
  told : ∃ seconds, toldSeconds s.timeout = .ok seconds

theorem weakens_readSegments (segments : List Segment) :
    (readSegments segments).Weakens (readSegments segments) := by
  unfold readSegments
  cases segments.findSome? (·.crash?) with
  | none => exact weakens_pure ()
  | some c => exact weakens_fail (.crash c)

theorem events_predicate (s : Session) (conditions : List Condition) :
    (s.predicate conditions).events = [] := by
  unfold predicate
  split
  · rfl
  · change (s.readClock.bind _).events = []
    unfold readClock
    cases s.now <;> rfl

theorem weakens_predicate (s : Session) (conditions : List Condition) :
    (s.predicate conditions).Weakens (s.restored.predicate conditions) :=
  weakens_self (by simp [events_predicate])

theorem isLoss_events (p : Predicate) (segmentId : Option String) :
    ∀ e ∈ p.events segmentId, e.isLoss = false := by
  simp [Predicate.events, Event.isLoss]

section Steps

variable {s : Session} (h : s.FailsPlainly)
include h

theorem FailsPlainly.broken_failsOfStore {α : Type} (operation : String) {b : Breakdown}
    (hb : ∀ c, b ≠ .crash c) : (s.broken operation b : Traced α).FailsOfStore := by
  cases b with
  | driver label => exact ⟨.storeError operation label, rfl, rfl⟩
  | crash c => exact absurd rfl (hb c)
  | silence =>
      obtain ⟨seconds, htold⟩ := h.told
      unfold broken
      rw [htold]
      exact ⟨.storeTimeout seconds operation, rfl, rfl⟩

theorem FailsPlainly.weakens_ask {α : Type} (q : Query) (answer : Store → α) :
    (s.ask q answer).Weakens (s.restored.ask q answer) := by
  cases hq : s.database.breakdown? q with
  | none =>
      have hrestored : s.restored.database.breakdown? q = none :=
        Database.breakdown?_restored hq
      have hsame : s.ask q answer = s.restored.ask q answer := by
        rw [ask, ask, hq, hrestored]
        rfl
      rw [← hsame, ask, hq]
      exact weakens_pure _
  | some b =>
      cases b with
      | crash c =>
          have hrestored : s.restored.database.breakdown? q = some (.crash c) :=
            h.database.breakdown?_restored hq
          rw [ask, ask, hq, hrestored]
          exact weakens_fail _
      | driver label =>
          have hfails : (s.ask q answer).FailsOfStore := by
            rw [ask, hq]
            exact h.broken_failsOfStore _ (by simp)
          exact weakens_of_failsOfStore hfails _
      | silence =>
          have hfails : (s.ask q answer).FailsOfStore := by
            rw [ask, hq]
            exact h.broken_failsOfStore _ (by simp)
          exact weakens_of_failsOfStore hfails _

theorem FailsPlainly.weakens_askRows {α : Type} (operation : String) (segments : List Segment)
    (a : α) :
    (s.askRows operation segments a).Weakens (s.restored.askRows operation segments a) := by
  have hrestored : s.restored.askRows operation segments a = .pure a := by
    cases segments <;> rfl
  rw [hrestored]
  cases segments with
  | nil =>
      rw [askRows_nil]
      exact weakens_pure a
  | cons g rest =>
      cases hrows : s.database.rowsBreakdown? with
      | none =>
          unfold askRows
          rw [hrows]
          exact weakens_pure a
      | some b =>
          refine weakens_of_failsOfStore ?_ _
          have hb : ∀ c, b ≠ .crash c := by
            rintro c rfl
            -- No text is bound in the query that could have no bytes.
            have hnone : s.database.restored.breakdown? .conditionRows = none := rfl
            rw [h.database.breakdown?_restored hrows] at hnone
            cases hnone
          unfold askRows
          rw [hrows]
          exact h.broken_failsOfStore operation hb

theorem FailsPlainly.weakens_loadSegment (segmentId : String) :
    (s.loadSegment segmentId).Weakens (s.restored.loadSegment segmentId) := by
  refine (h.weakens_ask _ _).bind fun found => ?_
  refine (weakens_readSegments _).bind fun _ => (h.weakens_askRows _ _ _).bind fun rows => ?_
  cases found with
  | none => exact weakens_fail _
  | some g => exact weakens_pure _

theorem FailsPlainly.weakens_resolveSegment (segmentId : String) :
    (s.resolveSegment segmentId).Weakens (s.restored.resolveSegment segmentId) := by
  refine (h.weakens_loadSegment segmentId).bind fun ⟨g, rows⟩ => ?_
  dsimp only
  split
  · refine (weakens_tell (by simp [MalformedRow.event, Event.isLoss])).bind fun _ => ?_
    refine (s.weakens_predicate _).bind fun p => ?_
    refine (weakens_tell (isLoss_events p _)).bind fun _ => ?_
    refine (h.weakens_ask _ _).bind fun members => ?_
    exact (weakens_tell (by simp [Event.isLoss])).bind fun _ => weakens_pure _
  · exact (weakens_tell (by simp [Event.isLoss])).bind fun _ => weakens_pure _

theorem FailsPlainly.weakens_statistics : s.statistics.Weakens s.restored.statistics := by
  refine (h.weakens_ask _ _).bind fun total => ?_
  refine (h.weakens_ask _ _).bind fun active => ?_
  exact (h.weakens_ask _ _).bind fun subscribers => weakens_pure _

theorem FailsPlainly.weakens_targets (campaignId : String) :
    (s.targets campaignId).Weakens (s.restored.targets campaignId) := by
  refine (h.weakens_ask _ _).bind fun found => ?_
  cases found with
  | none => exact weakens_fail _
  | some c => exact h.weakens_ask _ _

theorem FailsPlainly.weakens_loadLiveSegments :
    s.loadLiveSegments.Weakens s.restored.loadLiveSegments := by
  refine (h.weakens_ask _ _).bind fun segments => ?_
  exact (weakens_readSegments _).bind fun _ => h.weakens_askRows _ _ _

end Steps

theorem kind?_of_limitFailure? {limit : Json} {f : Failure} (h : limitFailure? limit = some f) :
    f.kind? = none := by
  unfold limitFailure? at h
  cases limit with
  | bool b => cases h
  | integer n =>
      dsimp only at h
      split at h <;> cases h
      rfl
  | real x =>
      dsimp only at h
      split at h <;> cases h
      rfl
  | null | text | list | object =>
      cases h
      rfl

section Recovery

variable {s : Session} (h : s.FailsPlainly)
include h

theorem FailsPlainly.estimatePredicate_of_lost {p : Predicate}
    (hlost : (s.estimatePredicate p).LosesQuery) :
    ∃ detail, (s.estimatePredicate p).outcome = .ok ⟨0, some detail, p.skipped⟩ := by
  have hcount : (s.count p).Weakens (s.restored.count p) := h.weakens_ask _ _
  -- The events of an estimate's own are no losses.
  have hcounted : (s.count p).FailsOfStore := by
    refine hcount.lost ?_
    obtain ⟨e, he, hloss⟩ := hlost
    refine ⟨e, ?_, hloss⟩
    unfold estimatePredicate at he
    dsimp only at he
    split at he
    · rcases List.mem_append.mp he with hmem | hmem
      · exact hmem
      · rw [List.mem_singleton.mp hmem] at hloss
        cases hloss
    · split at he
      · rcases List.mem_append.mp he with hmem | hmem
        · exact hmem
        · rw [List.mem_singleton.mp hmem] at hloss
          cases hloss
      · exact he
  obtain ⟨f, hout, hf⟩ := hcounted
  refine ⟨f.message, ?_⟩
  unfold estimatePredicate
  simp only [hout, hf, if_true]

/-- An estimate can do without its count. -/
theorem FailsPlainly.estimate_of_lost {conditions : List Condition}
    (hlost : (s.estimate conditions).LosesQuery) :
    ∃ detail skipped, (s.estimate conditions).outcome = .ok ⟨0, some detail, skipped⟩ := by
  unfold estimate at hlost ⊢
  rcases losesQuery_bind hlost with ⟨e, he, -⟩ | ⟨p, hp, hrest⟩
  · rw [events_predicate] at he
    cases he
  rw [outcome_bind_of_ok hp]
  rcases losesQuery_bind hrest with ⟨e, he, hloss⟩ | ⟨_, _, hestimated⟩
  · rw [isLoss_events p none e he] at hloss
    cases hloss
  rw [outcome_bind_of_ok (outcome_tell _)]
  obtain ⟨detail, hout⟩ := h.estimatePredicate_of_lost hestimated
  exact ⟨detail, p.skipped, hout⟩

end Recovery

/-- The limit on how many segments are resolved at a time is the only thing that can make a union
fail unexpectedly. -/
theorem resolveUnion_survives {s : Session} {segmentIds : List String}
    (hforeseen : (s.restored.resolveUnion segmentIds).IsForeseen) :
    (s.resolveUnion segmentIds).Survives := by
  by_cases hempty : segmentIds = []
  · subst hempty
    intro f hf
    cases hf
  cases hlimit : limitFailure? s.concurrency with
  | none =>
      intro f hf
      rcases resolveUnion_cases hlimit segmentIds with ⟨-, hout⟩ | ⟨-, hout⟩
      · rw [hout] at hf
        cases hf
        rfl
      · rw [hout] at hf
        cases hf
  | some f =>
      have hfails : (s.restored.resolveUnion segmentIds).outcome = .error f := by
        unfold resolveUnion
        rw [if_neg (by simpa using hempty)]
        have hsame : s.restored.concurrency = s.concurrency := rfl
        rw [hsame, hlimit]
        rfl
      have hkind := hforeseen f hfails
      rw [kind?_of_limitFailure? hlimit] at hkind
      cases hkind

section Campaign

variable {s : Session} (h : s.FailsPlainly)
include h

theorem FailsPlainly.resolveCampaign_survives {campaignId : String}
    (hlost : (s.resolveCampaign campaignId).LosesQuery)
    (hforeseen : (s.restored.resolveCampaign campaignId).IsForeseen) :
    (s.resolveCampaign campaignId).Survives := by
  have htargets := h.weakens_targets campaignId
  rcases losesQuery_bind hlost with hfirst | ⟨segmentIds, hfound, -⟩
  · exact ((htargets.lost hfirst).bind _).survives
  · intro f hf
    have hrestored := htargets.ok hfound
    have hunion : (s.restored.resolveUnion segmentIds).IsForeseen := by
      intro g hg
      exact hforeseen g ((outcome_bind_of_ok hrestored _).trans hg)
    exact resolveUnion_survives hunion f ((outcome_bind_of_ok hfound _).symm.trans hf)

end Campaign

section Recount

variable {s : Session} {now : Moment}

theorem Begins.recount_outcome (h : s.Begins now) :
    s.recount.2.outcome =
      match s.liveSegments.findSome? (s.interruption? now) with
      | some f => .error f
      | none => .ok (s.liveSegments.map (s.report now)) := by
  have hcounted := (s.recountEach_workOf now s.liveSegments
    ⟨s.database.store, s.database.store, false⟩).2
  cases hfirst : s.liveSegments.findSome? (s.interruption? now) with
  | some f =>
      rw [hfirst] at hcounted
      exact (h.recount_of_error hcounted).2
  | none =>
      rw [hfirst] at hcounted
      exact (h.recount_of_ok hcounted).2

theorem recount_of_load_error {f : Failure} (h : s.loadLiveSegments.outcome = .error f) :
    s.recount.2.outcome = .error f :=
  (recount_of_unbegun (outcome_bind_of_error h _)).2

theorem recount_of_clock_error {work : List (Segment × List ConditionRow)} {c : Crash}
    (hload : s.loadLiveSegments.outcome = .ok work) (hnow : s.now = .error c) :
    s.recount.2.outcome = .error (.crash c) := by
  have hclock : s.readClock.outcome = .error (.crash c) := by
    rw [readClock, hnow]
    rfl
  have hloaded := (outcome_bind_of_ok hload fun segments =>
    s.readClock >>= fun now => Pure.pure (segments, now)).trans (outcome_bind_of_error hclock _)
  exact (recount_of_unbegun hloaded).2

theorem onlyBreaksDown_loadLiveSegments (s : Session) : s.loadLiveSegments.OnlyBreaksDown := by
  refine (s.onlyBreaksDown_ask _ _).bind fun segments => ?_
  exact (onlyBreaksDown_readSegments _).bind fun _ => s.onlyBreaksDown_askRows _ _ _

theorem isOutage_of_isBreakdown {f : Failure} (h : f.isBreakdown = true)
    (hkind : f.kind?.isSome = true) : f.isOutage = true := by
  cases f with
  | storeTimeout | storeError => rfl
  | crash c => cases hkind
  | _ => cases h

theorem kind?_of_interruption? {g : Segment} {f : Failure} (h : s.interruption? now g = some f) :
    s.counted now g = .error f ∧ f.isOfStore = false ∧ f.kind? = none := by
  unfold interruption? at h
  cases hcount : s.counted now g with
  | ok n =>
      rw [hcount] at h
      cases h
  | error other =>
      rw [hcount] at h
      dsimp only at h
      split at h
      · cases h
      · rename_i hother
        cases h
        have hbreakdown := s.onlyBreaksDown_ask _ _ f hcount
        cases f with
        | crash c => exact ⟨rfl, rfl, rfl⟩
        | storeTimeout | storeError => exact absurd rfl hother
        | _ => cases hbreakdown

theorem FailsPlainly.interruption?_restored (h : s.FailsPlainly) {g : Segment} {f : Failure}
    (hf : s.interruption? now g = some f) : s.restored.interruption? now g = some f := by
  obtain ⟨hcount, hother, -⟩ := kind?_of_interruption? hf
  have hweakens : (s.countWithin g.id (s.predicateOf now (s.rowsOf g))).Weakens
      (s.restored.countWithin g.id (s.restored.predicateOf now (s.restored.rowsOf g))) :=
    h.weakens_ask _ _
  rcases hweakens.outcome with hsame | ⟨failure, hout, hof⟩
  · have hrestored : s.restored.counted now g = .error f := hsame.symm.trans hcount
    unfold interruption?
    rw [hrestored]
    simp [hother]
  · have heq : (.error f : Except Failure Nat) = .error failure := hcount.symm.trans hout
    cases heq
    rw [hother] at hof
    cases hof

/-- An interrupted recount fails in a way that nobody provides for. -/
theorem Begins.not_isForeseen (h : s.Begins now) {g : Segment} (hg : g ∈ s.liveSegments)
    {f : Failure} (hf : s.interruption? now g = some f) : ¬ s.recount.2.IsForeseen := by
  intro hforeseen
  have hout := h.recount_outcome
  cases hfirst : s.liveSegments.findSome? (s.interruption? now) with
  | none =>
      have hnone := List.findSome?_eq_none_iff.mp hfirst g hg
      rw [hf] at hnone
      cases hnone
  | some first =>
      rw [hfirst] at hout
      obtain ⟨other, -, hinterrupts⟩ := List.exists_of_findSome?_eq_some hfirst
      have hkind := hforeseen first hout
      rw [(kind?_of_interruption? hinterrupts).2.2] at hkind
      cases hkind

/-- A recount can do without its counts. -/
theorem FailsPlainly.recount_survives (h : s.FailsPlainly)
    (hforeseen : s.restored.recount.2.IsForeseen) : s.recount.2.Survives := by
  intro f hf
  have hload := h.weakens_loadLiveSegments
  cases hloaded : s.loadLiveSegments.outcome with
  | error g =>
      rw [recount_of_load_error hloaded] at hf
      cases hf
      rcases hload.outcome with hsame | ⟨g, hout, hg⟩
      · have hrestored := recount_of_load_error (hsame.symm.trans hloaded)
        exact isOutage_of_isBreakdown (s.onlyBreaksDown_loadLiveSegments f hloaded)
          (hforeseen f hrestored)
      · rw [hloaded] at hout
        cases hout
        exact Failure.isOutage_of_isOfStore hg
  | ok work =>
      have hrestored := hload.ok hloaded
      cases hnow : s.now with
      | error c =>
          have hkind := hforeseen _ (recount_of_clock_error hrestored hnow)
          cases hkind
      | ok now =>
          have hbegins := begins_of_loadLiveSegments_outcome hloaded hnow
          have hbeginsRestored := begins_of_loadLiveSegments_outcome hrestored hnow
          rw [hbegins.recount_outcome] at hf
          cases hfirst : s.liveSegments.findSome? (s.interruption? now) with
          | none =>
              rw [hfirst] at hf
              cases hf
          | some first =>
              -- What interrupts the recount would interrupt it with the database in order, too.
              obtain ⟨g, hg, hinterrupts⟩ := List.exists_of_findSome?_eq_some hfirst
              have hagain := h.interruption?_restored hinterrupts
              exact absurd hforeseen (hbeginsRestored.not_isForeseen hg hagain)

theorem exists_begins_of_ok {entries : List RecountEntry}
    (hout : s.recount.2.outcome = .ok entries) : ∃ now, s.Begins now := by
  cases hload : s.loadLiveSegments.outcome with
  | error f =>
      rw [recount_of_load_error hload] at hout
      cases hout
  | ok work =>
      cases hnow : s.now with
      | error c =>
          rw [recount_of_clock_error hload hnow] at hout
          cases hout
      | ok now => exact ⟨now, begins_of_loadLiveSegments_outcome hload hnow⟩

theorem whole_of_report (hwhole : s.database.store.CountsWhole) {g : Segment}
    (hg : g ∈ s.liveSegments) : ∃ n, (s.report now g).count = .whole n := by
  unfold report
  cases s.counted now g with
  | ok n => exact ⟨n, rfl⟩
  | error f =>
      dsimp only
      unfold previousCount
      split
      · exact ⟨0, rfl⟩
      · exact ⟨0, rfl⟩
      · rename_i n _ hcount
        exact hwhole g (s.liveSegments_subset hg) n hcount

/-- A recount reports whole numbers, as long as the store has no others. -/
theorem whole_of_recount_outcome (hwhole : s.database.store.CountsWhole)
    {entries : List RecountEntry} (hout : s.recount.2.outcome = .ok entries) :
    ∀ e ∈ entries, ∃ n, e.count = .whole n := by
  obtain ⟨now, hbegins⟩ := exists_begins_of_ok hout
  rw [hbegins.recount_outcome] at hout
  split at hout
  · cases hout
  · cases hout
    intro e he
    obtain ⟨g, hg, rfl⟩ := List.mem_map.mp he
    exact whole_of_report hwhole hg

end Recount

end Session

end Targeting
