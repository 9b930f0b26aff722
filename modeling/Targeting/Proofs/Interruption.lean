import Targeting.Proofs.Recounting

/-!
What a recount that fails leaves behind. It has either not got to its work, and then the store is as
it was, or it was interrupted at a segment, and then the figures that were put before any count
failed stay: each of them lasts from the moment when the work on its segment is done.
-/

namespace Targeting

attribute [local irreducible] Condition.formula

namespace Session

/-- A segment already has the figures that a recount would give it. -/
def ShowsFigures (s : Session) (now : Moment) (g : Segment) : Prop :=
  ∃ n, s.counted now g = .ok n ∧ g.count = some (.whole n) ∧
    g.criteria = some (Criteria.describe (ConditionRow.conditions (s.rowsOf g))) ∧
    g.calculatedAt = some now.wall

/-- What a recount that does not come to its end leaves in the store. -/
structure LeavesSettled (s : Session) : Prop where
  /-- Short of its work it leaves everything as it was. -/
  unbegun : (∀ now, ¬ s.Begins now) → s.recount.1 = s.database.store
  /-- At its work it leaves new figures for the segments that were counted before any was not. -/
  begun : ∀ now, s.Begins now → s.recount.1 = s.refresh now (s.settled now)
  /-- Hence the store is as it was just when there is no such segment whose figures are new. -/
  unchanged_iff : s.recount.1 = s.database.store ↔
    ∀ now, s.Begins now → ∀ g ∈ s.settled now, s.ShowsFigures now g

section Settled

variable {s : Session} {now : Moment} {g : Segment}

theorem exists_count_of_settled (hg : g ∈ s.settled now) : ∃ n, s.counted now g = .ok n :=
  isCounted_iff.mp (List.mem_takeWhile_imp hg :)

/-- To give a segment new figures changes nothing just when it shows them already. -/
theorem refreshed_eq_self_iff (hg : g ∈ s.settled now) :
    s.refreshed now g = g ↔ s.ShowsFigures now g := by
  obtain ⟨n, hcount⟩ := exists_count_of_settled hg
  rw [refreshed_of_ok hcount]
  constructor
  · intro hsame
    refine ⟨n, hcount, ?_⟩
    rw [← hsame]
    exact ⟨rfl, rfl, rfl⟩
  · rintro ⟨m, hm, hnumber, hcriteria, htime⟩
    rw [hcount] at hm
    cases hm
    unfold recounted
    rw [← hnumber, ← hcriteria, ← htime]

theorem refresh_eq_store_iff {done : List Segment}
    (hdone : done ⊆ s.database.store.segments) :
    s.refresh now done = s.database.store ↔ ∀ g ∈ done, s.refreshed now g = g := by
  have hmap : s.refresh now done = s.database.store ↔
      (s.database.store.segments.map fun g => if g ∈ done then s.refreshed now g else g) =
        s.database.store.segments.map id := by
    rw [List.map_id]
    exact ⟨fun h => congrArg Store.segments h, fun h => by rw [refresh, h]⟩
  rw [hmap, List.map_inj_left]
  constructor
  · intro hsame g hg
    have hfixed := hsame g (hdone hg)
    rwa [if_pos hg] at hfixed
  · intro hfixed g _
    split
    · rename_i hg
      exact hfixed g hg
    · rfl

theorem settled_subset (s : Session) (now : Moment) :
    s.settled now ⊆ s.database.store.segments :=
  fun _ hg => s.liveSegments_subset (List.takeWhile_subset _ hg)

theorem Begins.clock_eq (h : s.Begins now) {other : Moment} (hother : s.Begins other) :
    other = now := Except.ok.inj (hother.clock.symm.trans h.clock)

end Settled

/-- A recount that fails leaves what is settled by then. -/
theorem recount_error_leaves_settled (s : Session)
    (hkeys : s.database.store.WellKeyed .segments) (f : Failure)
    (h : s.recount.2.outcome = .error f) : s.LeavesSettled := by
  cases s.course hkeys with
  | unbegun _ hnone hstore _ =>
      exact ⟨fun _ => hstore, fun now hnow => absurd hnow (hnone now),
        ⟨fun _ now hnow => absurd hnow (hnone now), fun _ => hstore⟩⟩
  | finished now _ _ _ hout =>
      rw [hout] at h
      cases h
  | interrupted now hbegins _ _ _ _ hstore _ =>
      have hall (P : Moment → Prop) : (∀ time, s.Begins time → P time) ↔ P now := by
        refine ⟨fun hP => hP now hbegins, fun hP time htime => ?_⟩
        rwa [hbegins.clock_eq htime]
      refine ⟨fun hnone => absurd hbegins (hnone now), (hall _).mpr hstore, ?_⟩
      rw [hall, hstore, refresh_eq_store_iff (s.settled_subset now)]
      exact forall₂_congr fun g hg => refreshed_eq_self_iff hg

/-- The last of three segments interrupts the recount of the sample store. -/
theorem breaksOff_crashingSession :
    Sample.crashingSession.recount.1 = Sample.crashingSession.refresh Sample.now
        [Sample.segment, { Sample.segment with id := "s3" }] ∧
      Sample.crashingSession.recount.2.outcome = .error (.crash ⟨"RuntimeError", some "boom"⟩) := by
  have hlive : Sample.crashingSession.liveSegments = _ := Sample.liveSegments_mixedStore
  have hfirst : Sample.crashingSession.liveSegments.findSome?
      (Sample.crashingSession.interruption? Sample.now) =
      some (.crash ⟨"RuntimeError", some "boom"⟩) := by
    rw [hlive]
    decide +kernel
  have hsettled : Sample.crashingSession.settled Sample.now =
      [Sample.segment, { Sample.segment with id := "s3" }] := by
    rw [settled, hlive]
    decide +kernel
  rw [← hsettled]
  exact (begins_mixedSession _).breaksOff (by decide) hfirst

theorem recount_error_leaves_settled_crashingSession :
    Sample.crashingSession.recount.2.outcome = .error (.crash ⟨"RuntimeError", some "boom"⟩) ∧
      Sample.crashingSession.LeavesSettled :=
  ⟨breaksOff_crashingSession.2,
    recount_error_leaves_settled _ (by decide) _ breaksOff_crashingSession.2⟩

/-- An interrupted recount can leave the store changed: the first segment keeps new figures. -/
theorem recount_interrupted_keeps_new_figures :
    Sample.crashingSession.recount.2.outcome = .error (.crash ⟨"RuntimeError", some "boom"⟩) ∧
      Sample.crashingSession.database.store.segment? "m1" "s1" = some Sample.segment ∧
      Sample.crashingSession.recount.1.segment? "m1" "s1" = some { Sample.segment with
        count := some (.whole 1)
        criteria := some "browser is chrome"
        calculatedAt := some Sample.now.wall } ∧
      Sample.crashingSession.recount.1 ≠ Sample.crashingSession.database.store := by
  have hbefore : Sample.crashingSession.database.store.segment? "m1" "s1" =
      some Sample.segment := by decide
  have hafter : Sample.crashingSession.recount.1.segment? "m1" "s1" = some { Sample.segment with
      count := some (.whole 1)
      criteria := some "browser is chrome"
      calculatedAt := some Sample.now.wall } := by
    rw [breaksOff_crashingSession.1]
    decide +kernel
  refine ⟨breaksOff_crashingSession.2, hbefore, hafter, fun hsame => ?_⟩
  rw [hsame, hbefore] at hafter
  revert hafter
  decide

end Session

end Targeting
