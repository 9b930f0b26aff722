import Mathlib.Data.List.Basic
import Targeting.Proofs.Endings
import Targeting.Proofs.Sample

/-!
When a union fails. Each position of a request is resolved on its own and has an entry that tells
how; the union fails only in an outage, when the request names segments and every one of them breaks
down. A single position whose segment resolves, is inactive or is not there lets the union stand.
-/

namespace Targeting

attribute [local irreducible] Condition.formula

namespace Session

/-- The entry of a position, whatever stands at the others. -/
def entry (s : Session) (segmentId : String) : UnionEntry :=
  ⟨segmentId, (s.resolveSegment segmentId).outcome⟩

/-- The resolution of a segment ends in a failure of the store, or in one that nobody expects. -/
def BreaksDown (s : Session) (segmentId : String) : Prop :=
  ∃ f, (s.resolveSegment segmentId).outcome = .error f ∧ f.isBreakdown = true

section Entry

variable (s : Session) (segmentId : String)

theorem not_breaksDown_iff : ¬ s.BreaksDown segmentId ↔
    s.Misses segmentId ∨ ∃ a, (s.resolveSegment segmentId).outcome = .ok a := by
  constructor
  · intro hstands
    cases s.ending segmentId with
    | missing h _ => exact .inl h
    | inactive _ _ _ hout => exact .inr ⟨_, hout⟩
    | resolved _ _ _ a _ hout => exact .inr ⟨a, hout⟩
    | broken f hf hout => exact absurd ⟨f, hout, hf⟩ hstands
  · rintro (hmisses | ⟨a, ha⟩) ⟨f, hf, hbreakdown⟩
    · rw [hmisses.resolveSegment_outcome] at hf
      cases hf
      cases hbreakdown
    · rw [ha] at hf
      cases hf

theorem misses_iff : s.Misses segmentId ↔
    (s.resolveSegment segmentId).outcome = .error (.segmentNotFound segmentId) := by
  refine ⟨Misses.resolveSegment_outcome, fun hfails => ?_⟩
  have hstands : ¬ s.BreaksDown segmentId := by
    rintro ⟨f, hf, hbreakdown⟩
    rw [hfails] at hf
    cases hf
    cases hbreakdown
  rcases (s.not_breaksDown_iff segmentId).mp hstands with hmisses | ⟨a, ha⟩
  · exact hmisses
  · rw [hfails] at ha
    cases ha

theorem status_entry_of_misses (h : s.Misses segmentId) :
    (s.entry segmentId).status = .notFound := by
  simp only [entry, UnionEntry.status, h.resolveSegment_outcome]

theorem status_entry_of_inactive {g : Segment} (h : s.Finds segmentId g)
    (hactive : g.isActive = false) : (s.entry segmentId).status = .inactive := by
  simp only [entry, UnionEntry.status, h.resolveSegment_outcome_of_inactive hactive]
  rfl

theorem status_entry_of_active {a : SegmentAudience}
    (hout : (s.resolveSegment segmentId).outcome = .ok a) (ha : a.isActive = true) :
    (s.entry segmentId).status = .resolved := by
  simp only [entry, UnionEntry.status, hout, ha, if_true]

theorem status_entry_of_breaksDown (h : s.BreaksDown segmentId) :
    (s.entry segmentId).status = .failed := by
  obtain ⟨f, hout, hf⟩ := h
  simp only [entry, UnionEntry.status, hout]
  cases f <;> first | rfl | cases hf

theorem status_entry_cases :
    ((s.entry segmentId).status = .notFound ∧ s.Misses segmentId) ∨
      ((s.entry segmentId).status = .inactive ∧
        ∃ g, s.Finds segmentId g ∧ g.isActive = false) ∨
      ((s.entry segmentId).status = .resolved ∧
        ∃ a, (s.resolveSegment segmentId).outcome = .ok a ∧ a.isActive = true) ∨
      ((s.entry segmentId).status = .failed ∧ s.BreaksDown segmentId) := by
  cases s.ending segmentId with
  | missing h hout => exact .inl ⟨s.status_entry_of_misses segmentId h, h⟩
  | inactive g h hactive hout =>
      exact .inr (.inl ⟨s.status_entry_of_inactive segmentId h hactive, g, h, hactive⟩)
  | resolved g h hactive a ha hout =>
      exact .inr (.inr (.inl ⟨s.status_entry_of_active segmentId hout ha, a, hout, ha⟩))
  | broken f hf hout =>
      have hbreaks : s.BreaksDown segmentId := ⟨f, hout, hf⟩
      exact .inr (.inr (.inr ⟨s.status_entry_of_breaksDown segmentId hbreaks, hbreaks⟩))

end Entry

/-- Two sessions of a merchant that differ in nothing but the subscribers and in which queries on
them break down. -/
structure SameBesideSubscribers (s t : Session) : Prop where
  merchantId : t.merchantId = s.merchantId
  store : t.database.store =
    { s.database.store with subscribers := t.database.store.subscribers }
  queries : ∀ q, q.table ≠ .subscribers → t.database.breakdown? q = s.database.breakdown? q
  rows : t.database.rowsBreakdown? = s.database.rowsBreakdown?

theorem Finds.of_sameBesideSubscribers {s t : Session} {segmentId : String} {g : Segment}
    (h : s.Finds segmentId g) (hsame : s.SameBesideSubscribers t) : t.Finds segmentId g where
  answered := by
    rw [hsame.merchantId, hsame.queries _ (by simp [Query.segmentById])]
    exact h.answered
  live := by
    rw [hsame.merchantId, hsame.store]
    exact h.live
  readable := h.readable
  loaded := hsame.rows.trans h.loaded

/-- What the entry of a position tells of its segment. -/
structure Reports (s : Session) (id : String) (e : UnionEntry) : Prop where
  segment : e.segmentId = id
  outcome : e.outcome = (s.resolveSegment id).outcome
  notFound : e.status = .notFound ↔
    (s.resolveSegment id).outcome = .error (.segmentNotFound id)
  missing : e.status = .notFound ↔ s.Misses id
  inactive : e.status = .inactive ↔ ∃ g, s.Finds id g ∧ g.isActive = false
  /-- Nothing about the subscribers makes an inactive segment anything else. -/
  stillInactive : e.status = .inactive →
    ∀ t, s.SameBesideSubscribers t → (t.entry id).status = .inactive
  resolved : e.status = .resolved ↔ ∃ a, (s.resolveSegment id).outcome = .ok a ∧ a.isActive = true
  failed : e.status = .failed ↔ s.BreaksDown id

theorem reports_entry (s : Session) (segmentId : String) :
    s.Reports segmentId (s.entry segmentId) := by
  have hcases := s.status_entry_cases segmentId
  have hmissing : (s.entry segmentId).status = .notFound ↔ s.Misses segmentId := by
    refine ⟨fun hstatus => ?_, s.status_entry_of_misses segmentId⟩
    simpa [hstatus] using hcases
  have hinactive : (s.entry segmentId).status = .inactive ↔
      ∃ g, s.Finds segmentId g ∧ g.isActive = false := by
    refine ⟨fun hstatus => ?_,
      fun ⟨g, h, hactive⟩ => s.status_entry_of_inactive segmentId h hactive⟩
    simpa [hstatus] using hcases
  exact {
    segment := rfl
    outcome := rfl
    notFound := hmissing.trans (s.misses_iff segmentId)
    missing := hmissing
    inactive := hinactive
    stillInactive := by
      intro hstatus t hsame
      obtain ⟨g, h, hactive⟩ := hinactive.mp hstatus
      exact t.status_entry_of_inactive segmentId (h.of_sameBesideSubscribers hsame) hactive
    resolved := by
      refine ⟨fun hstatus => ?_, fun ⟨a, hout, ha⟩ => s.status_entry_of_active segmentId hout ha⟩
      simpa [hstatus] using hcases
    failed := by
      refine ⟨fun hstatus => ?_, s.status_entry_of_breaksDown segmentId⟩
      simpa [hstatus] using hcases }

section Union

variable {s : Session} {segmentIds : List String}

theorem isTotalFailure_resolveEach_iff : (s.resolveEach segmentIds).isTotalFailure = true ↔
    ∀ id ∈ segmentIds, s.BreaksDown id := by
  have hfailed (id : String) : (s.entry id).status = .failed ↔ s.BreaksDown id :=
    (s.reports_entry id).failed
  simp only [← hfailed, resolveEach, Audience.isTotalFailure, List.all_map, List.all_eq_true,
    Function.comp_apply, beq_iff_eq]
  rfl

theorem limitFailure?_of_pos {n : Int} (hn : 1 ≤ n) : limitFailure? (.integer n) = none := by
  simp only [limitFailure?, if_neg (show ¬ n < 0 by omega)]

/-- The resolution of the positions decides alone whether a union stands. -/
theorem resolveUnion_cases (hlimit : limitFailure? s.concurrency = none)
    (segmentIds : List String) :
    ((segmentIds ≠ [] ∧ ∀ id ∈ segmentIds, s.BreaksDown id) ∧
        (s.resolveUnion segmentIds).outcome =
          .error (.resolution segmentIds.length (s.resolveEach segmentIds).failures)) ∨
      ((segmentIds = [] ∨ ∃ id ∈ segmentIds, ¬ s.BreaksDown id) ∧
        (s.resolveUnion segmentIds).outcome = .ok (s.resolveEach segmentIds)) := by
  by_cases hempty : segmentIds = []
  · subst hempty
    exact .inr ⟨.inl rfl, rfl⟩
  unfold resolveUnion
  rw [if_neg (by simpa using hempty), hlimit]
  dsimp only
  by_cases hbroken : ∀ id ∈ segmentIds, s.BreaksDown id
  · rw [if_pos (isTotalFailure_resolveEach_iff.mpr hbroken)]
    exact .inl ⟨⟨hempty, hbroken⟩, rfl⟩
  · rw [if_neg fun htotal => hbroken (isTotalFailure_resolveEach_iff.mp htotal)]
    push Not at hbroken
    exact .inr ⟨.inr hbroken, rfl⟩

def complaint (s : Session) (segmentId : String) : String := (s.entry segmentId).error.getD ""

/-- In an outage every segment of the request is complained of once. -/
theorem failures_resolveEach (hbroken : ∀ id ∈ segmentIds, s.BreaksDown id) :
    (s.resolveEach segmentIds).failures =
      (distinct segmentIds).map fun id => (id, s.complaint id) := by
  have herror : ∀ id ∈ segmentIds,
      ((s.entry id).error.map fun detail => (id, detail)) = some (id, s.complaint id) := by
    intro id hid
    obtain ⟨f, hout, -⟩ := hbroken id hid
    simp only [complaint, entry, UnionEntry.error, hout, Option.map_some, Option.getD_some]
  have hall : (segmentIds.filterMap fun id =>
      (s.entry id).error.map fun detail => (id, detail)) =
      segmentIds.map fun id => (id, s.complaint id) :=
    List.filterMap_eq_map_iff_forall_eq_some.mpr herror
  -- A segment is complained of in the same words each time.
  rw [← keyed_map, ← hall]
  simp only [Audience.failures, resolveEach, List.filterMap_map]
  rfl

/-- What a union tells when it fails. -/
structure TellsOutage (s : Session) (segmentIds : List String)
    (failures : List (String × String)) : Prop where
  firstSeen : FirstSeen (failures.map (·.1)) segmentIds
  detail : ∀ id detail, (id, detail) ∈ failures →
    ∃ f, (s.resolveSegment id).outcome = .error f ∧ detail = UnionEntry.failureDetail f

theorem tellsOutage_failures (hbroken : ∀ id ∈ segmentIds, s.BreaksDown id) :
    s.TellsOutage segmentIds (s.resolveEach segmentIds).failures := by
  rw [failures_resolveEach hbroken]
  constructor
  · have hids : ((distinct segmentIds).map fun id => (id, s.complaint id)).map (·.1) =
        distinct segmentIds := by
      rw [List.map_map]
      exact List.map_id _
    rw [hids]
    exact firstSeen_distinct segmentIds
  · intro id detail hmem
    obtain ⟨other, hother, hpair⟩ := List.mem_map.mp hmem
    cases hpair
    obtain ⟨f, hout, -⟩ := hbroken id ((mem_distinct id segmentIds).mp hother)
    refine ⟨f, hout, ?_⟩
    simp only [complaint, entry, UnionEntry.error, hout, Option.getD_some]

/-- What it is for a union to stand unless there is an outage. -/
structure StandsUnlessOutage (s : Session) (segmentIds : List String) : Prop where
  /-- It fails when there are segments and every one of them breaks down, and only then. -/
  fails_iff : (∃ count failures, (s.resolveUnion segmentIds).outcome =
      .error (.resolution count failures)) ↔
    segmentIds ≠ [] ∧ ∀ id ∈ segmentIds, s.BreaksDown id
  /-- One position that resolves, is inactive or is not found is enough for it to stand. -/
  stands_iff : (∃ a, (s.resolveUnion segmentIds).outcome = .ok a) ↔
    segmentIds = [] ∨ ∃ id ∈ segmentIds,
      s.Misses id ∨ ∃ a, (s.resolveSegment id).outcome = .ok a
  /-- Failing, it counts the positions and names every segment once. -/
  outage : ∀ count failures, (s.resolveUnion segmentIds).outcome =
    .error (.resolution count failures) →
      count = segmentIds.length ∧ s.TellsOutage segmentIds failures
  /-- Standing, it tells of every position how its segment ends. -/
  entries : ∀ a, (s.resolveUnion segmentIds).outcome = .ok a →
    a.entries.length = segmentIds.length ∧
      ∀ (i : Nat) (id : String), segmentIds[i]? = some id →
        ∃ e, a.entries[i]? = some e ∧ s.Reports id e

theorem standsUnlessOutage_of_outage (hne : segmentIds ≠ [])
    (hbroken : ∀ id ∈ segmentIds, s.BreaksDown id)
    (hout : (s.resolveUnion segmentIds).outcome =
      .error (.resolution segmentIds.length (s.resolveEach segmentIds).failures)) :
    s.StandsUnlessOutage segmentIds where
  fails_iff := ⟨fun _ => ⟨hne, hbroken⟩, fun _ => ⟨_, _, hout⟩⟩
  stands_iff := by
    refine ⟨fun ⟨a, ha⟩ => ?_, ?_⟩
    · rw [hout] at ha
      cases ha
    · rintro (hempty | ⟨id, hid, hstands⟩)
      · exact absurd hempty hne
      · exact absurd (hbroken id hid) ((s.not_breaksDown_iff id).mpr hstands)
  outage count failures hfails := by
    rw [hout] at hfails
    cases hfails
    exact ⟨rfl, tellsOutage_failures hbroken⟩
  entries a ha := by
    rw [hout] at ha
    cases ha

theorem standsUnlessOutage_of_stands
    (hstands : segmentIds = [] ∨ ∃ id ∈ segmentIds, ¬ s.BreaksDown id)
    (hout : (s.resolveUnion segmentIds).outcome = .ok (s.resolveEach segmentIds)) :
    s.StandsUnlessOutage segmentIds where
  fails_iff := by
    refine ⟨fun ⟨count, failures, hfails⟩ => ?_, fun ⟨hne, hbroken⟩ => ?_⟩
    · rw [hout] at hfails
      cases hfails
    · obtain ⟨id, hid, hstands⟩ := hstands.resolve_left hne
      exact absurd (hbroken id hid) hstands
  stands_iff := by
    simp only [not_breaksDown_iff] at hstands
    exact ⟨fun _ => hstands, fun _ => ⟨_, hout⟩⟩
  outage count failures hfails := by
    rw [hout] at hfails
    cases hfails
  entries a ha := by
    rw [hout] at ha
    cases ha
    refine ⟨List.length_map _, fun i id hid => ⟨s.entry id, ?_, s.reports_entry id⟩⟩
    simp only [resolveEach, List.getElem?_map, hid]
    rfl

/-- With a positive limit a union stands unless there is an outage, whatever else is wrong with the
store: nothing that happens to a segment ends the union or shows at another position. -/
theorem resolveUnion_stands_unless_outage (s : Session) (segmentIds : List String) (limit : Int)
    (hconcurrency : s.concurrency = .integer limit) (hpos : 1 ≤ limit) :
    s.StandsUnlessOutage segmentIds := by
  have hlimit : limitFailure? s.concurrency = none := by
    rw [hconcurrency]
    exact limitFailure?_of_pos hpos
  rcases resolveUnion_cases hlimit segmentIds with ⟨⟨hne, hbroken⟩, hout⟩ | ⟨hstands, hout⟩
  · exact standsUnlessOutage_of_outage hne hbroken hout
  · exact standsUnlessOutage_of_stands hstands hout

/-- One of two segments is not there, and the union stands although the other one breaks down. -/
theorem resolveUnion_stands_unless_outage_failingSession :
    Sample.failingSession.concurrency = .integer 4 ∧ (1 : Int) ≤ 4 ∧
      ((Sample.failingSession.resolveUnion ["s4", "s9", "s4"]).outcome.toOption.map
        (·.entries.map (·.status))) = some [.failed, .notFound, .failed] ∧
      Sample.failingSession.StandsUnlessOutage ["s4", "s9", "s4"] :=
  ⟨rfl, by decide, by decide +kernel, resolveUnion_stands_unless_outage _ _ 4 rfl (by decide)⟩

end Union

end Session

end Targeting
