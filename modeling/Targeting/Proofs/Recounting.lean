import Mathlib.Data.List.TakeWhile
import Targeting.Proofs.Endings
import Targeting.Proofs.Ownership
import Targeting.Proofs.Sample

/-!
The course of a recount. Segments are counted one after the other, and a segment that is counted is
put with its new figures. What a recount leaves behind is told by which segments it has dealt with:
in the current store all of those that were counted have their figures, and in the lasting store
those that were counted before the first failure.
-/

namespace Targeting

attribute [local irreducible] Condition.formula

namespace Session

def liveSegments (s : Session) : List Segment :=
  s.database.store.liveSegments s.merchantId

def rowsOf (s : Session) (g : Segment) : List ConditionRow := s.database.store.rowsOf g.id

/-- What the count of a segment comes to. -/
def counted (s : Session) (now : Moment) (g : Segment) : Except Failure Nat :=
  (s.countWithin g.id (s.predicateOf now (s.rowsOf g))).outcome

/-- A segment with its new figures, if it was counted. -/
def refreshed (s : Session) (now : Moment) (g : Segment) : Segment :=
  match s.counted now g with
  | .ok n => recounted now g (s.rowsOf g) n
  | .error _ => g

def report (s : Session) (now : Moment) (g : Segment) : RecountEntry :=
  let criteria := Criteria.describe (ConditionRow.conditions (s.rowsOf g))
  match s.counted now g with
  | .ok n => ⟨g.id, g.name, .whole n, criteria, none⟩
  | .error f => ⟨g.id, g.name, previousCount g, criteria, some f.message⟩

/-- The failure that ends a recount at a segment. -/
def interruption? (s : Session) (now : Moment) (g : Segment) : Option Failure :=
  match s.counted now g with
  | .ok _ => none
  | .error f => if f.isOfStore then none else some f

/-- The state after the work on a segment. -/
def advance (s : Session) (now : Moment) (r : RecountState) (g : Segment) : RecountState :=
  match s.counted now g with
  | .ok n => r.put (recounted now g (s.rowsOf g) n)
  | .error _ => r.hold

def workOf (s : Session) (segments : List Segment) : List (Segment × List ConditionRow) :=
  segments.map fun g => (g, s.rowsOf g)

section Loop

variable {s : Session} {now : Moment} {g : Segment}

theorem refreshed_of_ok {n : Nat} (h : s.counted now g = .ok n) :
    s.refreshed now g = recounted now g (s.rowsOf g) n := by
  simp only [refreshed, h]

theorem refreshed_of_error {f : Failure} (h : s.counted now g = .error f) :
    s.refreshed now g = g := by
  simp only [refreshed, h]

@[simp] theorem id_refreshed (s : Session) (now : Moment) (g : Segment) :
    (s.refreshed now g).id = g.id := by
  unfold refreshed
  cases s.counted now g <;> rfl

/-- A count that fails without interrupting the recount has failed in the store. -/
theorem isOfStore_of_interruption? {f : Failure} (h : s.interruption? now g = none)
    (hcount : s.counted now g = .error f) : f.isOfStore = true := by
  unfold interruption? at h
  rw [hcount] at h
  by_contra hother
  simp [hother] at h

/-- A segment that does not interrupt the recount is dealt with and reported, and the rest
follows. -/
theorem recountEach_cons_of_none (h : s.interruption? now g = none) (rest : List Segment)
    (r : RecountState) :
    (s.recountEach now r (s.workOf (g :: rest))).1 =
        (s.recountEach now (s.advance now r g) (s.workOf rest)).1 ∧
      (s.recountEach now r (s.workOf (g :: rest))).2.outcome =
        (s.recountEach now (s.advance now r g) (s.workOf rest)).2.outcome.map
          (s.report now g :: ·) := by
  have hwork : s.workOf (g :: rest) = (g, s.rowsOf g) :: s.workOf rest := rfl
  have hcounted : (s.countWithin g.id (s.predicateOf now (s.rowsOf g))).outcome =
      s.counted now g := rfl
  rw [hwork, recountEach, hcounted]
  unfold advance report
  cases hcount : s.counted now g with
  | ok n => exact ⟨rfl, rfl⟩
  | error f =>
      dsimp only
      rw [if_pos (isOfStore_of_interruption? h hcount)]
      exact ⟨rfl, rfl⟩

theorem recountEach_cons_of_some {f : Failure} (h : s.interruption? now g = some f)
    (rest : List Segment) (r : RecountState) :
    (s.recountEach now r (s.workOf (g :: rest))).1 = r ∧
      (s.recountEach now r (s.workOf (g :: rest))).2.outcome = .error f := by
  have hwork : s.workOf (g :: rest) = (g, s.rowsOf g) :: s.workOf rest := rfl
  have hcounted : (s.countWithin g.id (s.predicateOf now (s.rowsOf g))).outcome =
      s.counted now g := rfl
  rw [hwork, recountEach, hcounted]
  unfold interruption? at h
  cases hcount : s.counted now g with
  | ok n =>
      rw [hcount] at h
      cases h
  | error other =>
      rw [hcount] at h
      dsimp only at h ⊢
      split at h
      · cases h
      · rename_i hother
        cases h
        rw [if_neg hother]
        exact ⟨rfl, rfl⟩

/-- A recount deals with segments until one interrupts it. -/
theorem recountEach_workOf (s : Session) (now : Moment) (segments : List Segment)
    (r : RecountState) :
    (s.recountEach now r (s.workOf segments)).1 =
        (segments.takeWhile fun g => (s.interruption? now g).isNone).foldl (s.advance now) r ∧
      (s.recountEach now r (s.workOf segments)).2.outcome =
        match segments.findSome? (s.interruption? now) with
        | some f => .error f
        | none => .ok (segments.map (s.report now)) := by
  induction segments generalizing r with
  | nil => exact ⟨rfl, rfl⟩
  | cons g rest ih =>
      rw [List.takeWhile_cons, List.findSome?_cons]
      cases hg : s.interruption? now g with
      | some f => exact recountEach_cons_of_some hg rest r
      | none =>
          obtain ⟨hstate, hout⟩ := recountEach_cons_of_none hg rest r
          obtain ⟨hrest, hreports⟩ := ih (s.advance now r g)
          rw [hstate, hout, hrest, hreports]
          -- The report comes before those of the rest, unless the rest is interrupted.
          refine ⟨rfl, ?_⟩
          cases rest.findSome? (s.interruption? now) <;> rfl

end Loop

/-- The store in which some segments have been dealt with. -/
def refresh (s : Session) (now : Moment) (done : List Segment) : Store :=
  { s.database.store with
    segments := s.database.store.segments.map fun g =>
      if g ∈ done then s.refreshed now g else g }

def isCounted (s : Session) (now : Moment) (g : Segment) : Bool :=
  match s.counted now g with
  | .ok _ => true
  | .error _ => false

theorem isCounted_iff {s : Session} {now : Moment} {g : Segment} :
    s.isCounted now g = true ↔ ∃ n, s.counted now g = .ok n := by
  unfold isCounted
  cases s.counted now g <;> simp

/-- The state of a recount that has dealt with some segments. -/
structure Progress (s : Session) (now : Moment) (done : List Segment) (r : RecountState) :
    Prop where
  current : r.current = s.refresh now done
  lasting : r.lasting = s.refresh now (done.takeWhile (s.isCounted now))
  held : r.isHeld = !done.all (s.isCounted now)

section Run

variable {s : Session} {now : Moment}

theorem refresh_nil (s : Session) (now : Moment) : s.refresh now [] = s.database.store := by
  simp [refresh]

theorem Progress.start (s : Session) (now : Moment) :
    s.Progress now [] ⟨s.database.store, s.database.store, false⟩ :=
  ⟨(s.refresh_nil now).symm, (s.refresh_nil now).symm, rfl⟩

/-- To put the figures of a counted segment is to have dealt with it, too. -/
theorem putSegment_refresh (hkeys : s.database.store.WellKeyed .segments) {g : Segment}
    (hg : g ∈ s.database.store.segments) {n : Nat} (hcount : s.counted now g = .ok n)
    (done : List Segment) :
    (s.refresh now done).putSegment (recounted now g (s.rowsOf g) n) =
      s.refresh now (done ++ [g]) := by
  have hnodup : (s.database.store.segments.map (·.id)).Nodup := hkeys.1
  rw [← refreshed_of_ok hcount]
  unfold Store.putSegment refresh
  rw [List.map_map]
  congr 1
  refine List.map_congr_left fun old hold => ?_
  have hid : (if old ∈ done then s.refreshed now old else old).id = old.id := by
    split <;> simp
  simp only [Function.comp_apply, hid, id_refreshed, List.mem_append, List.mem_singleton]
  -- Putting goes by id, dealing with a segment by the row: the keys make the two the same.
  by_cases hsame : old = g
  · simp [hsame]
  · have hother : old.id ≠ g.id := fun h => hsame (List.inj_on_of_nodup_map hnodup hold hg h)
    simp [hsame, hother]

/-- A segment that is not counted keeps its figures, whether it has been dealt with or not. -/
theorem refresh_append_of_error {g : Segment} {f : Failure} (hcount : s.counted now g = .error f)
    (done : List Segment) : s.refresh now (done ++ [g]) = s.refresh now done := by
  have hsegments : (s.database.store.segments.map fun old =>
      if old ∈ done ++ [g] then s.refreshed now old else old) =
      s.database.store.segments.map fun old =>
        if old ∈ done then s.refreshed now old else old := by
    refine List.map_congr_left fun old _ => ?_
    by_cases hsame : old = g
    · simp [hsame, refreshed_of_error hcount]
    · simp [hsame]
  rw [refresh, refresh, hsegments]

theorem takeWhile_append_singleton {α : Type} (p : α → Bool) (items : List α) (a : α) :
    (items ++ [a]).takeWhile p =
      if items.all p && p a then items ++ [a] else items.takeWhile p := by
  induction items with
  | nil => cases ha : p a <;> simp [ha]
  | cons b rest ih =>
      rw [List.cons_append, List.takeWhile_cons, ih, List.takeWhile_cons, List.all_cons]
      cases hb : p b with
      | false => simp
      | true =>
          simp only [Bool.true_and, if_true]
          split <;> rfl

theorem Progress.put {done : List Segment} {r : RecountState} (h : s.Progress now done r)
    (hkeys : s.database.store.WellKeyed .segments) {g : Segment}
    (hg : g ∈ s.database.store.segments) {n : Nat} (hcount : s.counted now g = .ok n) :
    s.Progress now (done ++ [g]) (r.put (recounted now g (s.rowsOf g) n)) := by
  have hcounted : s.isCounted now g = true := isCounted_iff.mpr ⟨n, hcount⟩
  have hlasting := takeWhile_append_singleton (s.isCounted now) done g
  have hheld : (done ++ [g]).all (s.isCounted now) = done.all (s.isCounted now) := by
    simp [hcounted]
  have hput := putSegment_refresh hkeys hg hcount done
  rw [← h.current] at hput
  rw [hcounted, Bool.and_true] at hlasting
  refine ⟨hput, ?_, by rw [hheld]; exact h.held⟩
  cases hall : done.all (s.isCounted now) with
  | true =>
      -- Nothing is held back yet, so that what is put lasts.
      have hfree : r.isHeld = false := by rw [h.held, hall]; rfl
      rw [hall] at hlasting
      simp only [RecountState.put, hfree, Bool.false_eq_true, if_false]
      rw [hlasting, if_pos rfl, hput]
  | false =>
      have hkept : r.isHeld = true := by rw [h.held, hall]; rfl
      rw [hall] at hlasting
      simp only [RecountState.put, hkept, if_true]
      rw [hlasting, if_neg (by simp), h.lasting]

theorem Progress.hold {done : List Segment} {r : RecountState} (h : s.Progress now done r)
    {g : Segment} {f : Failure} (hcount : s.counted now g = .error f) :
    s.Progress now (done ++ [g]) r.hold := by
  have hcounted : s.isCounted now g = false := by simp only [isCounted, hcount]
  have hlasting := takeWhile_append_singleton (s.isCounted now) done g
  rw [hcounted, Bool.and_false, if_neg (by simp)] at hlasting
  refine ⟨?_, ?_, by simp [RecountState.hold, hcounted]⟩
  · rw [refresh_append_of_error hcount]
    exact h.current
  · rw [hlasting]
    exact h.lasting

theorem Progress.step {done : List Segment} {r : RecountState} (h : s.Progress now done r)
    (hkeys : s.database.store.WellKeyed .segments) {g : Segment}
    (hg : g ∈ s.database.store.segments) : s.Progress now (done ++ [g]) (s.advance now r g) := by
  unfold advance
  cases hcount : s.counted now g with
  | ok n => exact h.put hkeys hg hcount
  | error f => exact h.hold hcount

theorem Progress.run {segments done : List Segment} {r : RecountState}
    (h : s.Progress now done r) (hkeys : s.database.store.WellKeyed .segments)
    (hsegments : segments ⊆ s.database.store.segments) :
    s.Progress now (done ++ segments) (segments.foldl (s.advance now) r) := by
  -- What is done grows by what is taken off the segments that are left.
  induction segments generalizing done r with
  | nil => simpa using h
  | cons g rest ih =>
      obtain ⟨hg, hrest⟩ := List.cons_subset.mp hsegments
      simpa using ih (h.step hkeys hg) hrest

end Run

/-- A recount gets to its work: its segments are found and can be read, and the clock is read. -/
structure Begins (s : Session) (now : Moment) : Prop where
  answered : s.database.breakdown? (.liveSegments s.merchantId) = none
  readable : ∀ g ∈ s.liveSegments, g.crash? = none
  loaded : s.liveSegments = [] ∨ s.database.rowsBreakdown? = none
  clock : s.now = .ok now

def countLive (s : Session) (now : Moment) : RecountState × Traced (List RecountEntry) :=
  s.recountEach now ⟨s.database.store, s.database.store, false⟩ (s.workOf s.liveSegments)

/-- The segments that are counted before the first one that is not. -/
def settled (s : Session) (now : Moment) : List Segment :=
  s.liveSegments.takeWhile (s.isCounted now)

inductive Course (s : Session) : Prop where
  | unbegun (f : Failure) (hnone : ∀ now, ¬ s.Begins now)
      (hstore : s.recount.1 = s.database.store) (hout : s.recount.2.outcome = .error f)
  | finished (now : Moment) (h : s.Begins now)
      (hnone : ∀ g ∈ s.liveSegments, s.interruption? now g = none)
      (hstore : s.recount.1 = s.refresh now s.liveSegments)
      (hout : s.recount.2.outcome = .ok (s.liveSegments.map (s.report now)))
  | interrupted (now : Moment) (h : s.Begins now) (g : Segment) (hg : g ∈ s.liveSegments)
      (f : Failure) (hsome : s.interruption? now g = some f)
      (hstore : s.recount.1 = s.refresh now (s.settled now))
      (hout : s.recount.2.outcome = .error f)

section Course

variable {s : Session} {now : Moment}

theorem Begins.loadLiveSegments_outcome (h : s.Begins now) :
    s.loadLiveSegments.outcome = .ok (s.workOf s.liveSegments) := by
  have hasked : (s.ask (.liveSegments s.merchantId) fun store =>
      store.liveSegments s.merchantId).outcome = .ok s.liveSegments := ask_outcome h.answered _
  have hread : (readSegments s.liveSegments).outcome = .ok () := by
    unfold readSegments
    rw [List.findSome?_eq_none_iff.mpr h.readable]
    rfl
  unfold loadLiveSegments
  rw [Traced.outcome_bind_of_ok hasked, Traced.outcome_bind_of_ok hread]
  rcases h.loaded with hempty | hrows
  · rw [hempty, askRows_nil]
    rfl
  · exact askRows_outcome hrows _ _ _

theorem begins_of_loadLiveSegments_outcome {work : List (Segment × List ConditionRow)}
    (h : s.loadLiveSegments.outcome = .ok work) (hnow : s.now = .ok now) : s.Begins now := by
  obtain ⟨segments, hasked, hfound⟩ := Traced.exists_of_outcome_bind h
  obtain ⟨_, hread, hrows⟩ := Traced.exists_of_outcome_bind hfound
  have hsegments : segments = s.liveSegments := eq_of_ask_outcome hasked
  subst hsegments
  refine ⟨answered_of_ask_outcome hasked, readable_of_readSegments_outcome hread, ?_, hnow⟩
  cases hlive : s.liveSegments with
  | nil => exact .inl rfl
  | cons g rest =>
      rw [hlive] at hrows
      exact .inr (loaded_of_askRows_outcome hrows)

theorem liveSegments_subset (s : Session) : s.liveSegments ⊆ s.database.store.segments :=
  fun _ hg => (Store.mem_liveSegments hg).1

/-- What interrupts a recount is not counted. -/
theorem settled_eq (s : Session) (now : Moment) :
    (s.liveSegments.takeWhile fun g => (s.interruption? now g).isNone).takeWhile
      (s.isCounted now) = s.settled now := by
  rw [List.takeWhile_takeWhile, settled]
  congr 1
  funext g
  unfold isCounted interruption?
  cases s.counted now g <;> simp

theorem recount_of_unbegun {f : Failure}
    (h : (s.loadLiveSegments >>= fun segments =>
      s.readClock >>= fun now => Pure.pure (segments, now)).outcome = .error f) :
    s.recount.1 = s.database.store ∧ s.recount.2.outcome = .error f := by
  unfold recount
  dsimp only
  rw [h]
  exact ⟨rfl, rfl⟩

theorem Begins.loaded_outcome (h : s.Begins now) :
    (s.loadLiveSegments >>= fun segments =>
      s.readClock >>= fun now => Pure.pure (segments, now)).outcome =
      .ok (s.workOf s.liveSegments, now) := by
  rw [Traced.outcome_bind_of_ok h.loadLiveSegments_outcome,
    Traced.outcome_bind_of_ok (readClock_outcome h.clock)]
  rfl

theorem Begins.recount_of_ok (h : s.Begins now) {entries : List RecountEntry}
    (hout : (s.countLive now).2.outcome = .ok entries) :
    s.recount.1 = (s.countLive now).1.current ∧ s.recount.2.outcome = .ok entries := by
  unfold countLive at hout
  unfold recount
  dsimp only
  rw [h.loaded_outcome]
  dsimp only
  rw [hout]
  exact ⟨rfl, rfl⟩

theorem Begins.recount_of_error (h : s.Begins now) {f : Failure}
    (hout : (s.countLive now).2.outcome = .error f) :
    s.recount.1 = (s.countLive now).1.lasting ∧ s.recount.2.outcome = .error f := by
  unfold countLive at hout
  unfold recount
  dsimp only
  rw [h.loaded_outcome]
  dsimp only
  rw [hout]
  exact ⟨rfl, rfl⟩

/-- What the work of a recount has left when it ends or is interrupted. -/
theorem progress_countLive (s : Session) (now : Moment)
    (hkeys : s.database.store.WellKeyed .segments) :
    s.Progress now (s.liveSegments.takeWhile fun g => (s.interruption? now g).isNone)
      (s.countLive now).1 := by
  have hgoing : (s.liveSegments.takeWhile fun g => (s.interruption? now g).isNone) ⊆
      s.database.store.segments :=
    fun g hg => s.liveSegments_subset (List.takeWhile_subset _ hg)
  rw [countLive, (s.recountEach_workOf now s.liveSegments _).1]
  exact (Progress.start s now).run hkeys hgoing

/-- A recount that nothing interrupts deals with all segments. -/
theorem Begins.finishes (h : s.Begins now) (hkeys : s.database.store.WellKeyed .segments)
    (hnone : ∀ g ∈ s.liveSegments, s.interruption? now g = none) :
    s.recount.1 = s.refresh now s.liveSegments ∧
      s.recount.2.outcome = .ok (s.liveSegments.map (s.report now)) := by
  have hout := (s.recountEach_workOf now s.liveSegments
    ⟨s.database.store, s.database.store, false⟩).2
  rw [List.findSome?_eq_none_iff.mpr hnone] at hout
  have hall : (s.liveSegments.takeWhile fun g => (s.interruption? now g).isNone) =
      s.liveSegments :=
    List.takeWhile_eq_self_iff.mpr fun g hg => by simp [hnone g hg]
  have hprogress := s.progress_countLive now hkeys
  rw [hall] at hprogress
  obtain ⟨hstore, hresult⟩ := h.recount_of_ok hout
  exact ⟨hstore.trans hprogress.current, hresult⟩

/-- A recount that is interrupted leaves the figures of the segments that were counted before any
was not. -/
theorem Begins.breaksOff (h : s.Begins now) (hkeys : s.database.store.WellKeyed .segments)
    {f : Failure} (hsome : s.liveSegments.findSome? (s.interruption? now) = some f) :
    s.recount.1 = s.refresh now (s.settled now) ∧ s.recount.2.outcome = .error f := by
  have hout := (s.recountEach_workOf now s.liveSegments
    ⟨s.database.store, s.database.store, false⟩).2
  rw [hsome] at hout
  have hlasting := (s.progress_countLive now hkeys).lasting
  rw [settled_eq] at hlasting
  obtain ⟨hstore, hresult⟩ := h.recount_of_error hout
  exact ⟨hstore.trans hlasting, hresult⟩

/-- A recount that gets to its work either deals with all segments or is interrupted. -/
theorem Begins.course (h : s.Begins now) (hkeys : s.database.store.WellKeyed .segments) :
    s.Course := by
  cases hfind : s.liveSegments.findSome? (s.interruption? now) with
  | none =>
      have hnone := List.findSome?_eq_none_iff.mp hfind
      obtain ⟨hstore, hout⟩ := h.finishes hkeys hnone
      exact .finished now h hnone hstore hout
  | some f =>
      obtain ⟨g, hg, hsome⟩ := List.exists_of_findSome?_eq_some hfind
      obtain ⟨hstore, hout⟩ := h.breaksOff hkeys hfind
      exact .interrupted now h g hg f hsome hstore hout

theorem course (s : Session) (hkeys : s.database.store.WellKeyed .segments) : s.Course := by
  cases hload : s.loadLiveSegments.outcome with
  | error f =>
      obtain ⟨hstore, hout⟩ := recount_of_unbegun (Traced.outcome_bind_of_error hload _)
      refine .unbegun f (fun now h => ?_) hstore hout
      rw [h.loadLiveSegments_outcome] at hload
      cases hload
  | ok work =>
      cases hnow : s.now with
      | ok now => exact (begins_of_loadLiveSegments_outcome hload hnow).course hkeys
      | error c =>
          have hclock : s.readClock.outcome = .error (.crash c) := by
            rw [readClock, hnow]
            rfl
          have hloaded := (Traced.outcome_bind_of_ok hload fun segments =>
            s.readClock >>= fun now => Pure.pure (segments, now)).trans
              (Traced.outcome_bind_of_error hclock _)
          obtain ⟨hstore, hout⟩ := recount_of_unbegun hloaded
          refine .unbegun (.crash c) (fun now h => ?_) hstore hout
          rw [h.clock] at hnow
          cases hnow

/-- A fault on subscribers does not keep a recount from its work. -/
theorem begins_mixedSession (b : Breakdown) : (Sample.mixedSession b).Begins Sample.now where
  answered := by
    have htexts : Crash.ofTexts? ["m1"] = none := by decide +kernel
    exact Option.map_eq_none_iff.mpr htexts
  readable := by
    have hlive : (Sample.mixedSession b).liveSegments = _ := Sample.liveSegments_mixedStore
    rw [hlive]
    decide +kernel
  loaded := .inr rfl
  clock := rfl

end Course

end Session

end Targeting
