import Targeting.Proofs.CarriedTexts
import Targeting.Proofs.LostQueries

/-!
What a session can count on when nothing is wrong. The tables are there and within reach, no fault
is set, the clock shows a time, and the store holds what a store can hold. Then every query whose
texts have bytes is answered, no segment breaks down, and a recount has nothing in its way.
-/

namespace Targeting

open Text

attribute [local irreducible] Condition.formula

/-- A store as its columns take it: segments have ids of their own, each with bytes, and kinds that
are known, and the texts of condition rows have bytes. -/
structure Store.IsSound (store : Store) : Prop where
  names : store.NamesSegments
  kinds : ∀ g ∈ store.segments, g.crash? = none
  rows : ∀ row ∈ store.conditionRows, row.IsEncodable

namespace Session

structure IsReady (s : Session) (now : Moment) : Prop where
  restored : s.database = s.database.restored
  clock : s.now = .ok now
  merchant : isEncodable s.merchantId = true
  store : s.database.store.IsSound

namespace IsReady

variable {s : Session} {now : Moment} (h : s.IsReady now)
include h

/-- Nothing but its own texts can keep a query from its answer. -/
theorem breakdown?_eq_none {q : Query} (hq : ∀ text ∈ q.texts, isEncodable text = true) :
    s.database.breakdown? q = none := by
  have htexts : Crash.ofTexts? q.texts = none := by
    rw [Crash.ofTexts?, List.findSome?_eq_none_iff]
    intro text htext
    exact (Crash.ofText?_eq_none_iff text).mpr (hq text htext)
  rw [h.restored]
  exact Option.map_eq_none_iff.mpr htexts

theorem rowsBreakdown?_eq_none : s.database.rowsBreakdown? = none := by
  rw [h.restored]
  rfl

theorem encodable_id {g : Segment} (hg : g ∈ s.database.store.segments) :
    isEncodable g.id = true :=
  (Crash.ofText?_eq_none_iff g.id).mp (h.store.names.bytes g hg)

/-- A segment is found or missed when it is looked for by an id that has bytes. -/
theorem finds_or_misses {segmentId : String} (hid : isEncodable segmentId = true) :
    (∃ g, s.Finds segmentId g) ∨ s.Misses segmentId := by
  have hanswered : s.database.breakdown? (.segmentById segmentId s.merchantId) = none := by
    apply h.breakdown?_eq_none
    intro text htext
    rcases List.mem_cons.mp htext with rfl | hlast
    · exact hid
    · rw [List.mem_singleton.mp hlast]
      exact h.merchant
  cases hfind : s.database.store.segment? s.merchantId segmentId with
  | none => exact .inr ⟨hanswered, hfind⟩
  | some g =>
      have hmem := (Store.segment?_eq_some hfind).1
      exact .inl ⟨g, hanswered, hfind, h.store.kinds g hmem, h.rowsBreakdown?_eq_none⟩

/-- What stored conditions ask for has bytes. -/
theorem isEncodable_predicateOf (segmentId : String) :
    (s.predicateOf now (s.database.store.rowsOf segmentId)).formula.IsEncodable := by
  apply Predicate.isEncodable_ofConditions h.merchant
  intro c hc f hf
  obtain ⟨row, hrow, hread⟩ := List.mem_filterMap.mp hc
  have hstored : row ∈ s.database.store.conditionRows := by
    rw [Store.rowsOf, List.mem_mergeSort] at hrow
    exact (List.mem_filter.mp hrow).1
  have hcondition : c.IsEncodable := by
    apply (h.store.rows row hstored).condition
    cases hout : row.condition with
    | error issues =>
        rw [hout] at hread
        cases hread
    | ok other =>
        rw [hout] at hread
        cases hread
        rfl
  cases hout : c.formula now with
  | error rejection =>
      rw [Condition.formula?_of_error hout] at hf
      cases hf
  | ok other =>
      rw [Condition.formula?_of_ok hout] at hf
      cases hf
      exact hcondition.formula hout

theorem serves {g : Segment} (hg : s.Finds g.id g) : s.Serves now g :=
  ⟨hg.answered, hg.readable, hg.loaded, h.breakdown?_eq_none (h.isEncodable_predicateOf g.id)⟩

/-- Whatever is asked for by an id that has bytes resolves, is inactive or is not there. -/
theorem not_breaksDown {segmentId : String} (hid : isEncodable segmentId = true) :
    ¬ s.BreaksDown segmentId := by
  rw [not_breaksDown_iff]
  rcases h.finds_or_misses hid with ⟨g, hfinds⟩ | hmisses
  · right
    cases hactive : g.isActive with
    | false => exact ⟨_, hfinds.resolveSegment_outcome_of_inactive hactive⟩
    | true =>
        obtain ⟨-, rfl, -⟩ := Store.segment?_eq_some hfinds.live
        exact ⟨_, resolveSegment_outcome h.clock (h.serves hfinds) hfinds.live hactive⟩
  · exact .inl hmisses

theorem resolveUnion_outcome (hlimit : limitFailure? s.concurrency = none)
    {segmentIds : List String} (hids : ∀ id ∈ segmentIds, isEncodable id = true) :
    (s.resolveUnion segmentIds).outcome = .ok (s.resolveEach segmentIds) := by
  rcases resolveUnion_cases hlimit segmentIds with ⟨⟨hne, hbroken⟩, -⟩ | ⟨-, hout⟩
  · obtain ⟨id, hid⟩ := List.exists_mem_of_ne_nil _ hne
    exact absurd (hbroken id hid) (h.not_breaksDown (hids id hid))
  · exact hout

theorem begins : s.Begins now where
  answered := by
    apply h.breakdown?_eq_none
    intro text htext
    rw [List.mem_singleton.mp htext]
    exact h.merchant
  readable g hg := h.store.kinds g (s.liveSegments_subset hg)
  loaded := .inr h.rowsBreakdown?_eq_none
  clock := h.clock

theorem counted_eq (g : Segment) :
    s.counted now g =
      .ok (s.database.store.countOf (s.predicateOf now (s.rowsOf g)).formula) := by
  have hanswered : s.database.breakdown?
      { Query.subscribers "count" (s.predicateOf now (s.rowsOf g)) with savepoint := some g.id } =
        none := h.breakdown?_eq_none (h.isEncodable_predicateOf g.id)
  exact ask_outcome hanswered _

/-- A recount counts all live segments. -/
theorem recount_outcome :
    s.recount.2.outcome = .ok (s.liveSegments.map (s.report now)) := by
  refine (h.begins.finishes h.store.names.keys fun g _ => ?_).2
  rw [interruption?, h.counted_eq]

end IsReady

end Session

theorem Sample.isEncodable_row {category value join : String} (place : Nat)
    (hcategory : isEncodable category = true) (hvalue : isEncodable value = true)
    (hjoin : isEncodable join = true) :
    (Sample.row place category value join).IsEncodable := by
  intro slot text htext
  cases slot
  case category => cases htext; exact hcategory
  case value => cases htext; exact hvalue
  case join => cases htext; exact hjoin
  all_goals cases htext
  all_goals decide +kernel

end Targeting
