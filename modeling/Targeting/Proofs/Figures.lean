import Targeting.Proofs.Recounting
import Targeting.Proofs.StoredTimes

/-!
What a recount that comes to its end has done. It has dealt with each live segment of the merchant
once: one that was counted has the figures that its resolution bears out, one that the store failed
to count is as it was, and so is every other row.
-/

namespace Targeting

attribute [local irreducible] Condition.formula

namespace Database

variable {d : Database} {q : Query}

theorem not_lacks_of_breakdown? (h : d.breakdown? q = none) : d.lacks q.table = false := by
  unfold breakdown? at h
  split at h
  · cases h
  · split at h
    · cases h
    · simpa using ‹¬ d.lacks q.table = true›

theorem ofTexts?_of_breakdown? (h : d.breakdown? q = none) : Crash.ofTexts? q.texts = none := by
  unfold breakdown? at h
  split at h
  · cases h
  · split at h
    · cases h
    · exact Option.map_eq_none_iff.mp h

end Database

namespace Store

/-- Segments are told apart by their ids, and each id is a text that a query can carry. -/
structure NamesSegments (store : Store) : Prop where
  keys : store.WellKeyed .segments
  bytes : ∀ g ∈ store.segments, Crash.ofText? g.id = none

section Order

/-- The order of segments is that of their ages and, for the same age, that of their ids. -/
theorem segmentLe_iff {a b : Segment} :
    segmentLe a b = true ↔ StoredTime.agePlace a.createdAt ≤ StoredTime.agePlace b.createdAt ∧
      (a.createdAt = b.createdAt → a.id ≤ b.id) := by
  unfold segmentLe
  split
  next hage => simp [hage]
  next hage => simp [hage, ageLe_iff]

theorem segmentLe_total (a b : Segment) : (segmentLe a b || segmentLe b a) = true := by
  rw [Bool.or_eq_true, segmentLe_iff, segmentLe_iff]
  by_cases hage : a.createdAt = b.createdAt
  · simpa [hage] using String.le_total a.id b.id
  · simpa [hage, Ne.symm hage] using
      le_total (StoredTime.agePlace a.createdAt) (StoredTime.agePlace b.createdAt)

theorem segmentLe_trans (a b c : Segment) (hab : segmentLe a b = true)
    (hbc : segmentLe b c = true) : segmentLe a c = true := by
  rw [segmentLe_iff] at *
  refine ⟨hab.1.trans hbc.1, fun hage => ?_⟩
  have hsame : a.createdAt = b.createdAt :=
    StoredTime.agePlace_injective (le_antisymm hab.1 (by rw [hage]; exact hbc.1))
  exact String.le_trans (hab.2 hsame) (hbc.2 (hsame.symm.trans hage))

end Order

theorem pairwise_liveSegments (store : Store) (merchantId : String) :
    (store.liveSegments merchantId).Pairwise fun a b => segmentLe a b = true :=
  List.pairwise_mergeSort segmentLe_trans segmentLe_total _

theorem segment?_of_mem {store : Store} (hkeys : store.WellKeyed .segments) {g : Segment}
    (hg : g ∈ store.segments) (hdeleted : g.deletedAt.isNone = true) :
    store.segment? g.merchantId g.id = some g := by
  have hnodup : (store.segments.map (·.id)).Nodup := hkeys.1
  cases hfind : store.segment? g.merchantId g.id with
  | none =>
      have habsent := List.find?_eq_none.mp hfind g hg
      simp [hdeleted] at habsent
  | some other =>
      obtain ⟨hother, hid, _⟩ := segment?_eq_some hfind
      rw [List.inj_on_of_nodup_map hnodup hother hg hid]

end Store

namespace Session

/-- The session with other faults set on its store, or with none. -/
def withFault (s : Session) (fault : Option FaultPattern) : Session :=
  { s with database := { s.database with fault := fault } }

/-- Whether a segment is one of those that a recount is about. -/
def isLive (s : Session) (g : Segment) : Bool :=
  g.merchantId == s.merchantId && g.deletedAt.isNone && g.isActive

/-- How a recount deals with a segment, by what its count comes to. -/
inductive DealsWith (s : Session) (now : Moment) (after : Store) (g : Segment)
    (e : RecountEntry) : Prop where
  | counted (n : Nat) (hcount : s.counted now g = .ok n) (a : SegmentAudience)
      (hresolved : ((s.withFault none).resolveSegment g.id).outcome = .ok a)
      (hlength : a.subscriberIds.length = n)
      (hentry : e = ⟨g.id, g.name, .whole n,
        Criteria.describe (ConditionRow.conditions (s.rowsOf g)), none⟩)
      (hstored : after.segment? s.merchantId g.id = some { g with
        count := some e.count
        criteria := some e.criteria
        calculatedAt := some now.wall })
  | failed (f : Failure) (hcount : s.counted now g = .error f) (hf : f.isOfStore = true)
      (hentry : e = ⟨g.id, g.name, (g.count.filter (· ≠ .text "")).getD (.whole 0),
        Criteria.describe (ConditionRow.conditions (s.rowsOf g)), some f.message⟩)
      (hstored : after.segment? s.merchantId g.id = some g)

/-- What a recount reports and leaves behind: it has dealt with the live segments of the merchant,
oldest first, and with nothing else, and what is stored of a segment does not depend on how the
others went. -/
structure BringsUpToDate (s : Session) (now : Moment) (entries : List RecountEntry)
    (after : Store) : Prop where
  listed : ∃ live : List Segment, live.Perm (s.database.store.segments.filter s.isLive) ∧
    (live.Pairwise fun a b => Store.segmentLe a b = true) ∧
    List.Forall₂ (s.DealsWith now after) live entries
  others : List.Forall₂ (fun g kept => kept.id = g.id ∧ (s.isLive g = false → kept = g))
    s.database.store.segments after.segments
  frame : after = { s.database.store with segments := after.segments }
  separate : ∀ fault entries, (s.withFault fault).recount.2.outcome = .ok entries →
    ∀ g ∈ s.database.store.segments, (s.withFault fault).counted now g = s.counted now g →
      (s.withFault fault).recount.1.segment? s.merchantId g.id = after.segment? s.merchantId g.id

section Live

variable {s : Session} {g : Segment}

theorem perm_liveSegments (s : Session) :
    s.liveSegments.Perm (s.database.store.segments.filter s.isLive) := by
  refine (List.mergeSort_perm _ _).trans ?_
  rw [Store.segmentsOf, List.filter_filter]
  refine List.Perm.of_eq (List.filter_congr fun g _ => ?_)
  rw [isLive, Bool.and_comm]

theorem mem_liveSegments_iff :
    g ∈ s.liveSegments ↔ g ∈ s.database.store.segments ∧ s.isLive g = true := by
  rw [s.perm_liveSegments.mem_iff, List.mem_filter]

theorem segment?_of_live (hkeys : s.database.store.WellKeyed .segments) (hg : g ∈ s.liveSegments) :
    s.database.store.segment? s.merchantId g.id = some g := by
  obtain ⟨hmem, hlive⟩ := mem_liveSegments_iff.mp hg
  simp only [isLive, Bool.and_eq_true, beq_iff_eq] at hlive
  rw [← hlive.1.1]
  exact Store.segment?_of_mem hkeys hmem hlive.1.2

theorem isActive_of_live (hg : g ∈ s.liveSegments) : g.isActive = true := by
  have hlive := (mem_liveSegments_iff.mp hg).2
  simp only [isLive, Bool.and_eq_true] at hlive
  exact hlive.2

end Live

section Refresh

variable {s : Session} {now : Moment} {g : Segment}

/-- A segment is found in the store that was worked on as it was before, perhaps with new
figures. -/
theorem segment?_refresh (s : Session) (now : Moment) (done : List Segment) (id : String) :
    (s.refresh now done).segment? s.merchantId id =
      (s.database.store.segment? s.merchantId id).map fun g =>
        if g ∈ done then s.refreshed now g else g := by
  unfold Store.segment? refresh
  rw [List.find?_map]
  congr 2
  funext g
  have hsame : ∀ new, new = g ∨ new = s.refreshed now g →
      new.id = g.id ∧ new.merchantId = g.merchantId ∧ new.deletedAt = g.deletedAt := by
    rintro new (rfl | rfl)
    · exact ⟨rfl, rfl, rfl⟩
    · unfold refreshed
      cases s.counted now g <;> exact ⟨rfl, rfl, rfl⟩
  obtain ⟨hid, hmerchant, hdeleted⟩ := hsame (if g ∈ done then s.refreshed now g else g)
    (by split <;> simp)
  simp only [Function.comp_apply, hid, hmerchant, hdeleted]

/-- Every segment stays in its place, and those that were not dealt with are as they were. -/
theorem forall₂_refresh (s : Session) (now : Moment) :
    List.Forall₂ (fun g kept => kept.id = g.id ∧ (s.isLive g = false → kept = g))
      s.database.store.segments (s.refresh now s.liveSegments).segments := by
  unfold refresh
  rw [List.forall₂_map_right_iff, List.forall₂_same]
  intro g hg
  refine ⟨by split <;> simp, fun hlive => if_neg fun h => ?_⟩
  rw [(mem_liveSegments_iff.mp h).2] at hlive
  cases hlive

theorem ofText?_of_begins (h : s.Begins now) : Crash.ofText? s.merchantId = none := by
  have htexts := Database.ofTexts?_of_breakdown? h.answered
  exact List.findSome?_eq_none_iff.mp htexts _ List.mem_cons_self

/-- Whatever a recount counts can be resolved, too, once no fault is set. -/
theorem Begins.serves (h : s.Begins now) (hstore : s.database.store.NamesSegments)
    (hg : g ∈ s.liveSegments) {n : Nat} (hcount : s.counted now g = .ok n) :
    (s.withFault none).Serves now g := by
  -- The tables are there and the texts have bytes, as the recount has asked with them already;
  -- only the id of the segment has not been in a query yet.
  have hanswered := Database.not_lacks_of_breakdown? h.answered
  have hcounted := answered_of_ask_outcome hcount
  have hlacks := Database.not_lacks_of_breakdown? hcounted
  have htexts := Database.ofTexts?_of_breakdown? hcounted
  have hnone (q : Query) (hq : s.database.lacks q.table = false)
      (hbytes : Crash.ofTexts? q.texts = none) :
      (s.withFault none).database.breakdown? q = none := by
    have hsame : (s.withFault none).database.lacks q.table = s.database.lacks q.table := rfl
    unfold Database.breakdown?
    rw [hsame, hq, hbytes]
    rfl
  refine ⟨hnone _ hanswered ?_, h.readable g hg, ?_, hnone _ hlacks htexts⟩
  · have hid := hstore.bytes g (s.liveSegments_subset hg)
    have hmerchant := ofText?_of_begins h
    refine List.findSome?_eq_none_iff.mpr fun text htext => ?_
    rcases List.mem_cons.mp htext with rfl | hlast
    · exact hid
    · rw [List.mem_singleton.mp hlast]
      exact hmerchant
  · have hloaded := h.loaded.resolve_left (List.ne_nil_of_mem hg)
    exact hnone _ (Database.not_lacks_of_breakdown? hloaded) rfl

/-- The count of a segment is the number of subscribers that it resolves to. -/
theorem Begins.resolved (h : s.Begins now) (hstore : s.database.store.NamesSegments)
    (hg : g ∈ s.liveSegments) {n : Nat} (hcount : s.counted now g = .ok n) :
    ∃ a, ((s.withFault none).resolveSegment g.id).outcome = .ok a ∧
      a.subscriberIds.length = n := by
  have hclock : (s.withFault none).now = .ok now := h.clock
  refine ⟨_, resolveSegment_outcome hclock (h.serves hstore hg hcount)
    (segment?_of_live hstore.keys hg) (isActive_of_live hg), ?_⟩
  rw [eq_of_ask_outcome hcount]
  simp only [SegmentAudience.subscriberIds, audienceOf, List.length_map, Store.selected,
    List.length_mergeSort, Store.countOf]
  rfl

theorem previousCount_eq (g : Segment) :
    previousCount g = (g.count.filter (· ≠ .text "")).getD (.whole 0) := by
  unfold previousCount
  split
  · rename_i hnone
    rw [hnone]
    rfl
  · rename_i hempty
    rw [hempty]
    rfl
  · rename_i n hother hsome
    have hn : n ≠ .text "" := hother
    simp [hsome, Option.filter_some, hn]

theorem Begins.dealsWith (h : s.Begins now) (hstore : s.database.store.NamesSegments)
    (hg : g ∈ s.liveSegments) (hnone : s.interruption? now g = none) :
    s.DealsWith now (s.refresh now s.liveSegments) g (s.report now g) := by
  have hstored : (s.refresh now s.liveSegments).segment? s.merchantId g.id =
      some (s.refreshed now g) := by
    rw [segment?_refresh, segment?_of_live hstore.keys hg, Option.map_some, if_pos hg]
  unfold report
  cases hcount : s.counted now g with
  | ok n =>
      rw [refreshed_of_ok hcount] at hstored
      obtain ⟨a, hresolved, hlength⟩ := h.resolved hstore hg hcount
      exact .counted n hcount a hresolved hlength rfl hstored
  | error f =>
      rw [refreshed_of_error hcount] at hstored
      refine .failed f hcount (isOfStore_of_interruption? hnone hcount) ?_ hstored
      rw [previousCount_eq]

end Refresh

section Separate

variable {s : Session} {now : Moment}

theorem recount_of_ok (hkeys : s.database.store.WellKeyed .segments) {entries : List RecountEntry}
    (h : s.recount.2.outcome = .ok entries) :
    ∃ now, s.Begins now ∧ (∀ g ∈ s.liveSegments, s.interruption? now g = none) ∧
      s.recount.1 = s.refresh now s.liveSegments ∧
      entries = s.liveSegments.map (s.report now) := by
  cases s.course hkeys with
  | unbegun f _ _ hout =>
      rw [hout] at h
      cases h
  | finished now hbegins hnone hstore hout =>
      rw [hout] at h
      cases h
      exact ⟨now, hbegins, hnone, hstore, rfl⟩
  | interrupted now _ g _ f _ _ hout =>
      rw [hout] at h
      cases h

/-- What is stored of a segment is decided by its own count. -/
theorem segment?_refresh_withFault (hkeys : s.database.store.WellKeyed .segments) {g : Segment}
    (hg : g ∈ s.database.store.segments) {fault : Option FaultPattern}
    (hcount : (s.withFault fault).counted now g = s.counted now g) :
    ((s.withFault fault).refresh now s.liveSegments).segment? s.merchantId g.id =
      (s.refresh now s.liveSegments).segment? s.merchantId g.id := by
  have hnodup : (s.database.store.segments.map (·.id)).Nodup := hkeys.1
  have hother := (s.withFault fault).segment?_refresh now s.liveSegments g.id
  rw [segment?_refresh]
  refine hother.trans (Option.map_congr fun found hfound => ?_)
  obtain ⟨hmem, hid, _⟩ := Store.segment?_eq_some hfound
  have hsame : found = g := List.inj_on_of_nodup_map hnodup hmem hg hid
  have hrefreshed : (s.withFault fault).refreshed now g = s.refreshed now g := by
    unfold refreshed
    rw [hcount]
    rfl
  rw [hsame, hrefreshed]

end Separate

/-- A recount that comes to its end brings the live segments of the merchant up to date. -/
theorem recount_brings_up_to_date (s : Session) (hstore : s.database.store.NamesSegments)
    (entries : List RecountEntry) (h : s.recount.2.outcome = .ok entries) :
    ∃ now, s.now = .ok now ∧ s.BringsUpToDate now entries s.recount.1 := by
  obtain ⟨now, hbegins, hnone, hafter, rfl⟩ := recount_of_ok hstore.keys h
  refine ⟨now, hbegins.clock, ?_⟩
  rw [hafter]
  refine ⟨⟨s.liveSegments, s.perm_liveSegments, Store.pairwise_liveSegments _ _, ?_⟩,
    s.forall₂_refresh now, rfl, ?_⟩
  · rw [List.forall₂_map_right_iff, List.forall₂_same]
    exact fun g hg => hbegins.dealsWith hstore hg (hnone g hg)
  · intro fault entries hother g hg hcount
    obtain ⟨time, hagain, _, hstored, _⟩ :=
      recount_of_ok (s := s.withFault fault) hstore.keys hother
    have hclock : time = now := Except.ok.inj (hagain.clock.symm.trans hbegins.clock)
    subst hclock
    rw [hstored]
    exact segment?_refresh_withFault hstore.keys hg hcount

/-- The store fails to count one segment of three. -/
theorem recount_brings_up_to_date_failingSession :
    Sample.failingSession.database.store.NamesSegments ∧ ∃ entries now,
      Sample.failingSession.recount.2.outcome = .ok entries ∧
      entries.map (·.error.isSome) = [false, false, true] ∧
      Sample.failingSession.BringsUpToDate now entries Sample.failingSession.recount.1 := by
  have hstore : Sample.failingSession.database.store.NamesSegments :=
    ⟨by decide, by decide +kernel⟩
  have hlive : Sample.failingSession.liveSegments = _ := Sample.liveSegments_mixedStore
  have hnone : ∀ g ∈ Sample.failingSession.liveSegments,
      Sample.failingSession.interruption? Sample.now g = none := by
    rw [hlive]
    decide +kernel
  have hbegins : Sample.failingSession.Begins Sample.now := begins_mixedSession _
  have hout := (hbegins.finishes hstore.keys hnone).2
  obtain ⟨now, -, hdone⟩ := recount_brings_up_to_date _ hstore _ hout
  refine ⟨hstore, _, now, hout, ?_, hdone⟩
  rw [hlive]
  decide +kernel

end Session

end Targeting
