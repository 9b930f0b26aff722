import Targeting.Proofs.Display

/-!
The words of a crash go nowhere. Whatever a session does, it looks at the label of a crash at most,
and so two sessions that differ in the words of their crashes alone come to the same but for those
words. In the union of several segments not even they are left: what it says of a segment that
crashed is made from the label.
-/

namespace Targeting

attribute [local irreducible] Condition.formula

def Crash.hushed (c : Crash) : Crash := ⟨c.label, none⟩

/-- The breakdown without the words of its crash. -/
def Breakdown.hushed : Breakdown → Breakdown
  | .crash c => .crash c.hushed
  | b => b

theorem Breakdown.eq_or_crash {b b' : Breakdown} (h : b.hushed = b'.hushed) :
    b = b' ∨ ∃ c d, b = .crash c ∧ b' = .crash d ∧ c.hushed = d.hushed := by
  cases b with
  | crash c =>
      cases b' with
      | crash d => exact .inr ⟨c, d, rfl, rfl, Breakdown.crash.inj h⟩
      | _ => cases h
  | _ =>
      cases b' with
      | crash d => cases h
      | _ => exact .inl h

/-- The failure without the words of its crash. -/
def Failure.hushed : Failure → Failure
  | .crash c => .crash c.hushed
  | f => f

/-- Failures that are the same but for words are the same, or both are crashes. -/
theorem Failure.eq_or_crash {f g : Failure} (h : f.hushed = g.hushed) :
    f = g ∨ ∃ c d, f = .crash c ∧ g = .crash d ∧ c.hushed = d.hushed := by
  cases f with
  | crash c =>
      cases g with
      | crash d => exact .inr ⟨c, d, rfl, rfl, Failure.crash.inj h⟩
      | _ => cases h
  | _ =>
      cases g with
      | crash d => cases h
      | _ => exact .inl h

/-- Two databases that differ in nothing but what their queries say when they crash. -/
structure Database.SameButWords (d other : Database) : Prop where
  store : other.store = d.store
  missing : other.missing = d.missing
  isReachable : other.isReachable = d.isReachable
  faults : ∀ q, (other.fault.bind (·.breakdown? q)).map Breakdown.hushed =
    (d.fault.bind (·.breakdown? q)).map Breakdown.hushed

namespace Database.SameButWords

variable {d other : Database} (h : d.SameButWords other)
include h

theorem lacks (t : Table) : other.lacks t = d.lacks t := by
  unfold Database.lacks
  rw [h.isReachable, h.missing]

/-- A query comes to the same over both, or crashes over both. -/
theorem breakdown?_cases (q : Query) : other.breakdown? q = d.breakdown? q ∨
    ∃ c c', d.breakdown? q = some (.crash c) ∧ other.breakdown? q = some (.crash c') ∧
      c'.hushed = c.hushed := by
  have hfaults := h.faults q
  unfold Database.breakdown?
  rw [h.lacks]
  cases hd : d.fault.bind (·.breakdown? q) with
  | none =>
      rw [hd, Option.map_none, Option.map_eq_none_iff] at hfaults
      exact .inl (by rw [hfaults])
  | some b =>
      rw [hd] at hfaults
      obtain ⟨b', hb', heq⟩ := Option.map_eq_some_iff.mp hfaults
      rw [hb']
      rcases Breakdown.eq_or_crash heq with rfl | ⟨c', c, rfl, rfl, hc⟩
      · exact .inl rfl
      · exact .inr ⟨c, c', rfl, rfl, hc⟩

end Database.SameButWords

namespace Traced

variable {α β : Type}

/-- The run without the words of the crash that it may end in. -/
def hushed (x : Traced α) : Traced α := ⟨x.events, x.outcome.mapError Failure.hushed⟩

/-- Two runs that are the same but for words come to the same, or fail in the same manner. -/
theorem hushed_cases {x y : Traced α} (h : x.hushed = y.hushed) : x.events = y.events ∧
    ((∃ a, x.outcome = .ok a ∧ y.outcome = .ok a) ∨
      ∃ f g, x.outcome = .error f ∧ y.outcome = .error g ∧ f.hushed = g.hushed) := by
  have hevents : x.hushed.events = y.hushed.events := by rw [h]
  refine ⟨hevents, ?_⟩
  have houtcome : x.outcome.mapError Failure.hushed = y.outcome.mapError Failure.hushed :=
    congrArg outcome h
  cases hx : x.outcome with
  | ok a =>
      cases hy : y.outcome with
      | ok b =>
          rw [hx, hy] at houtcome
          exact .inl ⟨a, rfl, congrArg _ (Except.ok.inj houtcome).symm⟩
      | error g =>
          rw [hx, hy] at houtcome
          cases houtcome
  | error f =>
      cases hy : y.outcome with
      | ok b =>
          rw [hx, hy] at houtcome
          cases houtcome
      | error g =>
          rw [hx, hy] at houtcome
          exact .inr ⟨f, g, rfl, rfl, Except.error.inj houtcome⟩

theorem hushed_bind {x y : Traced α} {next other : α → Traced β} (h : x.hushed = y.hushed)
    (hnext : ∀ a, (next a).hushed = (other a).hushed) :
    (x >>= next).hushed = (y >>= other).hushed := by
  change (x.bind next).hushed = (y.bind other).hushed
  obtain ⟨hevents, ⟨a, hx, hy⟩ | ⟨f, g, hx, hy, hfg⟩⟩ := hushed_cases h
  · have hrest := hnext a
    simp only [hushed, mk.injEq] at hrest
    simp only [Traced.bind, hx, hy, hushed, hevents, hrest]
  · simp only [Traced.bind, hx, hy, hushed, hevents, Except.mapError, hfg]

theorem hushed_map {x y : Traced α} (h : x.hushed = y.hushed) (before : List Event) (f : α → β) :
    (⟨before ++ x.events, x.outcome.map f⟩ : Traced β).hushed =
      (⟨before ++ y.events, y.outcome.map f⟩ : Traced β).hushed := by
  obtain ⟨hevents, ⟨a, hx, hy⟩ | ⟨g, g', hx, hy, hg⟩⟩ := hushed_cases h
  · simp only [hevents, hx, hy]
  · simp only [hevents, hx, hy, hushed, Except.map, Except.mapError, hg]

end Traced

namespace UnionEntry

def hushed (e : UnionEntry) : UnionEntry := ⟨e.segmentId, e.outcome.mapError Failure.hushed⟩

variable (e : UnionEntry)

@[simp] theorem segmentId_hushed : e.hushed.segmentId = e.segmentId := rfl

@[simp] theorem segmentName_hushed : e.hushed.segmentName = e.segmentName := by
  rcases e with ⟨segmentId, f | a⟩ <;> rfl

@[simp] theorem members_hushed : e.hushed.members = e.members := by
  rcases e with ⟨segmentId, f | a⟩ <;> rfl

@[simp] theorem tokens_hushed : e.hushed.tokens = e.tokens := by
  rcases e with ⟨segmentId, f | a⟩ <;> rfl

@[simp] theorem status_hushed : e.hushed.status = e.status := by
  rcases e with ⟨segmentId, f | a⟩
  · cases f <;> rfl
  · rfl

/-- What a breakdown says of a segment that crashed names the label and nothing else. -/
@[simp] theorem error_hushed : e.hushed.error = e.error := by
  rcases e with ⟨segmentId, f | a⟩
  · cases f <;> rfl
  · rfl

@[simp] theorem events_hushed : e.hushed.events = e.events := by
  rcases e with ⟨segmentId, f | a⟩
  · cases f <;> rfl
  · rfl

end UnionEntry

namespace Audience

def hushed (a : Audience) : Audience := ⟨a.entries.map UnionEntry.hushed⟩

/-- What a union says of each of its positions: the segment, how it was resolved, and what has gone
wrong. -/
def breakdown (a : Audience) : List (String × UnionStatus × Option String) :=
  a.entries.map fun e => (e.segmentId, e.status, e.error)

variable (a : Audience)

@[simp] theorem uniqueIds_hushed : a.hushed.uniqueIds = a.uniqueIds := by
  simp [uniqueIds, contributions, hushed, List.flatMap_map]

@[simp] theorem tokens_hushed : a.hushed.tokens = a.tokens := by
  simp [tokens, hushed, List.flatMap_map]

@[simp] theorem totalRawCount_hushed : a.hushed.totalRawCount = a.totalRawCount := by
  simp [totalRawCount, contributions, hushed, List.flatMap_map]

@[simp] theorem isTotalFailure_hushed : a.hushed.isTotalFailure = a.isTotalFailure := by
  simp [isTotalFailure, hushed, Function.comp_def]

@[simp] theorem failures_hushed : a.hushed.failures = a.failures := by
  simp [failures, hushed, List.filterMap_map, Function.comp_def]

@[simp] theorem breakdown_hushed : a.hushed.breakdown = a.breakdown := by
  simp [breakdown, hushed]

@[simp] theorem events_hushed :
    a.hushed.entries.flatMap (·.events) = a.entries.flatMap (·.events) := by
  simp [hushed, List.flatMap_map]

end Audience

namespace Session

open Traced

/-- The session over another database. -/
def withDatabase (s : Session) (d : Database) : Session := { s with database := d }

/-- Two crashes that are the same but for words break a query in the same manner. -/
theorem hushed_broken_crash {α : Type} (s t : Session) (operation : String) {c c' : Crash}
    (hcc : c'.hushed = c.hushed) :
    (t.broken operation (.crash c') : Traced α).hushed =
      (s.broken operation (.crash c)).hushed :=
  congrArg (fun c => (⟨[], .error (.crash c)⟩ : Traced α)) hcc

section Words

variable {s : Session} {other : Database} (h : s.database.SameButWords other)
include h

theorem hushed_ask {α : Type} (q : Query) (answer : Store → α) :
    ((s.withDatabase other).ask q answer).hushed = (s.ask q answer).hushed := by
  have hstore : (s.withDatabase other).database.store = s.database.store := h.store
  have hother : (s.withDatabase other).database.breakdown? q = other.breakdown? q := rfl
  unfold ask
  rw [hstore, hother]
  rcases h.breakdown?_cases q with heq | ⟨c, c', hc, hc', hcc⟩
  · rw [heq]
    rfl
  · rw [hc, hc']
    exact hushed_broken_crash _ _ q.operation hcc

theorem hushed_askRows {α : Type} (operation : String) (segments : List Segment) (a : α) :
    ((s.withDatabase other).askRows operation segments a).hushed =
      (s.askRows operation segments a).hushed := by
  have hother : (s.withDatabase other).database.rowsBreakdown? =
      other.breakdown? .conditionRows := rfl
  have hrows : s.database.rowsBreakdown? = s.database.breakdown? .conditionRows := rfl
  unfold askRows
  rw [hother, hrows]
  cases segments with
  | nil => rfl
  | cons g rest =>
      rcases h.breakdown?_cases .conditionRows with heq | ⟨c, c', hc, hc', hcc⟩
      · rw [heq]
        rfl
      · rw [hc, hc']
        exact hushed_broken_crash _ _ operation hcc

theorem hushed_loadSegment (segmentId : String) :
    ((s.withDatabase other).loadSegment segmentId).hushed =
      (s.loadSegment segmentId).hushed := by
  have hstored : (s.withDatabase other).database.store.rowsOf segmentId =
      s.database.store.rowsOf segmentId := congrArg (·.rowsOf segmentId) h.store
  unfold loadSegment
  dsimp only
  refine hushed_bind (hushed_ask h _ _) fun found => hushed_bind rfl fun _ => ?_
  rw [hstored]
  exact hushed_bind (hushed_askRows h _ _ _) fun _ => rfl

theorem hushed_resolveSegment (segmentId : String) :
    ((s.withDatabase other).resolveSegment segmentId).hushed =
      (s.resolveSegment segmentId).hushed := by
  unfold resolveSegment
  refine hushed_bind (hushed_loadSegment h segmentId) fun (g, rows) => ?_
  dsimp only
  split
  · refine hushed_bind rfl fun _ => hushed_bind rfl fun p => hushed_bind rfl fun _ => ?_
    exact hushed_bind (hushed_ask h _ _) fun _ => rfl
  · rfl

theorem hushed_statistics : (s.withDatabase other).statistics.hushed = s.statistics.hushed := by
  unfold statistics
  refine hushed_bind (hushed_ask h _ _) fun _ => hushed_bind (hushed_ask h _ _) fun _ => ?_
  exact hushed_bind (hushed_ask h _ _) fun _ => rfl

theorem hushed_targets (campaignId : String) :
    ((s.withDatabase other).targets campaignId).hushed = (s.targets campaignId).hushed := by
  unfold targets
  refine hushed_bind (hushed_ask h _ _) fun found => ?_
  cases found with
  | none => rfl
  | some campaign => exact hushed_ask h _ _

theorem hushed_estimatePredicate (p : Predicate) :
    ((s.withDatabase other).estimatePredicate p).hushed = (s.estimatePredicate p).hushed := by
  have hcount : ((s.withDatabase other).count p).hushed = (s.count p).hushed := hushed_ask h _ _
  unfold estimatePredicate
  obtain ⟨hevents, ⟨n, hn, hn'⟩ | ⟨f, g, hf, hg, hfg⟩⟩ := hushed_cases hcount
  · simp only [hevents, hn, hn']
  · simp only [hevents, hf, hg]
    rcases Failure.eq_or_crash hfg with rfl | ⟨c, d, rfl, rfl, hcd⟩
    · rfl
    · exact congrArg (fun c => (⟨(s.count p).events, .error (.crash c)⟩ : Traced Estimate)) hcd

theorem hushed_estimate (conditions : List Condition) :
    ((s.withDatabase other).estimate conditions).hushed = (s.estimate conditions).hushed := by
  unfold estimate
  refine hushed_bind rfl fun p => hushed_bind rfl fun _ => ?_
  exact hushed_estimatePredicate h p

theorem hushed_resolveEach (segmentIds : List String) :
    ((s.withDatabase other).resolveEach segmentIds).hushed =
      (s.resolveEach segmentIds).hushed := by
  unfold resolveEach Audience.hushed
  simp only [List.map_map, Audience.mk.injEq]
  refine List.map_congr_left fun id _ => ?_
  exact congrArg (fun x : Traced SegmentAudience => (⟨id, x.outcome⟩ : UnionEntry))
    (hushed_resolveSegment h id)

/-- The union of segments says nothing of the words of a crash, whether it fails or not. -/
theorem hushed_resolveUnion (segmentIds : List String) :
    ((s.withDatabase other).resolveUnion segmentIds).seen Audience.hushed =
      (s.resolveUnion segmentIds).seen Audience.hushed := by
  have heach := hushed_resolveEach h segmentIds
  have htotal := congrArg Audience.isTotalFailure heach
  have hfailures := congrArg Audience.failures heach
  have hraw := congrArg Audience.totalRawCount heach
  have hunique := congrArg Audience.uniqueIds heach
  have hentries := congrArg (fun a : Audience => a.entries.flatMap (·.events)) heach
  have hsegment : ∀ id, ((s.withDatabase other).resolveSegment id).events =
      (s.resolveSegment id).events := fun id => (hushed_cases (hushed_resolveSegment h id)).1
  have hlimit : (s.withDatabase other).concurrency = s.concurrency := rfl
  rw [Audience.isTotalFailure_hushed, Audience.isTotalFailure_hushed] at htotal
  rw [Audience.failures_hushed, Audience.failures_hushed] at hfailures
  rw [Audience.totalRawCount_hushed, Audience.totalRawCount_hushed] at hraw
  rw [Audience.uniqueIds_hushed, Audience.uniqueIds_hushed] at hunique
  simp only [Audience.events_hushed] at hentries
  unfold resolveUnion
  simp only [hlimit, htotal, hfailures, hraw, hunique, hentries, hsegment]
  split
  · rfl
  · split
    · rfl
    · split
      · rfl
      · simp only [seen, Except.map, heach]

theorem breakdown_resolveUnion (segmentIds : List String) :
    ((s.withDatabase other).resolveUnion segmentIds).outcome.map Audience.breakdown =
      (s.resolveUnion segmentIds).outcome.map Audience.breakdown := by
  have hseen : ∀ x : Traced Audience, x.outcome.map Audience.breakdown =
      (x.seen Audience.hushed).outcome.map Audience.breakdown := by
    intro x
    unfold seen
    cases x.outcome with
    | error f => rfl
    | ok a => simp only [Except.map, Audience.breakdown_hushed]
  rw [hseen ((s.withDatabase other).resolveUnion segmentIds), hushed_resolveUnion h, ← hseen]

theorem hushed_resolveCampaign (campaignId : String) :
    (((s.withDatabase other).resolveCampaign campaignId).seen Audience.hushed).hushed =
      ((s.resolveCampaign campaignId).seen Audience.hushed).hushed := by
  have hseen : ∀ t : Session, (t.resolveCampaign campaignId).seen Audience.hushed =
      t.targets campaignId >>= fun segmentIds =>
        (t.resolveUnion segmentIds).seen Audience.hushed :=
    fun t => (bind_seen_right fun _ => rfl).symm
  rw [hseen, hseen]
  refine hushed_bind (hushed_targets h campaignId) fun segmentIds => ?_
  rw [hushed_resolveUnion h]

theorem hushed_loadLiveSegments :
    (s.withDatabase other).loadLiveSegments.hushed = s.loadLiveSegments.hushed := by
  have hstored : (s.withDatabase other).database.store = s.database.store := h.store
  unfold loadLiveSegments
  refine hushed_bind (hushed_ask h _ _) fun segments => hushed_bind rfl fun _ => ?_
  rw [hstored]
  exact hushed_askRows h _ _ _

/-- Of two recounts of a list of segments, the one over the other database comes to the same. -/
theorem hushed_recountEach (now : Moment) (r : RecountState)
    (work : List (Segment × List ConditionRow)) :
    ((s.withDatabase other).recountEach now r work).1 = (s.recountEach now r work).1 ∧
      ((s.withDatabase other).recountEach now r work).2.hushed =
        (s.recountEach now r work).2.hushed := by
  induction work generalizing r with
  | nil => exact ⟨rfl, rfl⟩
  | cons loaded rest ih =>
      obtain ⟨g, rows⟩ := loaded
      have hcounted : ((s.withDatabase other).countWithin g.id (s.predicateOf now rows)).hushed =
          (s.countWithin g.id (s.predicateOf now rows)).hushed := hushed_ask h _ _
      have hpredicate : (s.withDatabase other).predicateOf now rows = s.predicateOf now rows := rfl
      have hevents : (s.withDatabase other).rowEvents now g rows = s.rowEvents now g rows := rfl
      rw [recountEach, recountEach, hpredicate, hevents]
      obtain ⟨hcount, ⟨n, hn, hn'⟩ | ⟨f, f', hf, hf', hff⟩⟩ := hushed_cases hcounted
      · obtain ⟨hstate, hfound⟩ := ih (r.put (recounted now g rows n))
        simp only [hn, hn', hcount]
        exact ⟨hstate, hushed_map hfound _ _⟩
      · simp only [hf, hf', hcount]
        rcases Failure.eq_or_crash hff with rfl | ⟨c, d, rfl, rfl, hcd⟩
        · obtain ⟨hstate, hfound⟩ := ih r.hold
          split
          · exact ⟨hstate, hushed_map hfound _ _⟩
          · exact ⟨rfl, rfl⟩
        · exact ⟨rfl, congrArg (fun c => (⟨_, .error (.crash c)⟩ : Traced (List RecountEntry))) hcd⟩

theorem hushed_recount : (s.withDatabase other).recount.1 = s.recount.1 ∧
    (s.withDatabase other).recount.2.hushed = s.recount.2.hushed := by
  have hloaded : ((s.withDatabase other).loadLiveSegments >>= fun segments =>
      (s.withDatabase other).readClock >>= fun now =>
        (Pure.pure (segments, now) : Traced _)).hushed =
      (s.loadLiveSegments >>= fun segments =>
        s.readClock >>= fun now => (Pure.pure (segments, now) : Traced _)).hushed :=
    hushed_bind (hushed_loadLiveSegments h) fun _ => rfl
  have hstore : (s.withDatabase other).database.store = s.database.store := h.store
  have hmerchant : (s.withDatabase other).merchantId = s.merchantId := rfl
  unfold recount
  dsimp only
  rw [hstore]
  obtain ⟨hevents, ⟨found, hf, hf'⟩ | ⟨f, f', hf, hf', hff⟩⟩ := hushed_cases hloaded
  · obtain ⟨work, now⟩ := found
    obtain ⟨hstate, hfound⟩ := hushed_recountEach h now
      ⟨s.database.store, s.database.store, false⟩ work
    simp only [hf, hf', hevents]
    obtain ⟨htold, ⟨entries, he, he'⟩ | ⟨f, f', he, he', hff⟩⟩ := hushed_cases hfound
    · simp only [he, he', hstate, htold, hmerchant, and_self]
    · simp only [he, he', hstate, htold, Traced.hushed, Except.mapError, hff, and_self]
  · simp only [hf, hf', hevents, Traced.hushed, Except.mapError, hff, and_self]

end Words

end Session

end Targeting
