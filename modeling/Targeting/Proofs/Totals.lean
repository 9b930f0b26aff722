import Targeting.Proofs.Merging
import Targeting.Proofs.NearestNumbers
import Targeting.Proofs.Readiness

/-!
The totals of a merchant beside what the other operations count. All of them look at the merchant's
active subscribers, and a condition can only leave some of them out: so nothing counts more of them
than there are in total, and where no condition is accepted all of them are left. A recount deals
with the segments that the totals call active.
-/

namespace Targeting

attribute [local irreducible] Condition.formula

namespace Store

/-- A predicate counts some of the active subscribers of its merchant. -/
theorem countOf_le (store : Store) (p : Predicate) :
    store.countOf p.formula ≤ (store.activeSubscribers p.merchantId).length := by
  rw [countOf, activeSubscribers, ← List.countP_eq_length_filter, ← List.countP_eq_length_filter]
  apply List.countP_mono_left
  intro u _ hu
  rw [Formula.selects_iff, Predicate.eval_formula_eq_yes] at hu
  simp [hu.1.1, hu.1.2]

theorem length_selected (store : Store) (f : Formula) :
    (store.selected f).length = store.countOf f := by
  rw [selected, List.length_mergeSort, countOf]

/-- Where every condition is rejected the predicate counts them all. -/
theorem countOf_of_rejected (store : Store) (merchantId : String) {now : Moment}
    {conditions : List Condition} (h : ∀ c ∈ conditions, c.formula? now = none) :
    store.countOf (Predicate.ofConditions conditions merchantId now).formula =
      (store.activeSubscribers merchantId).length := by
  have hplaces : ∀ c, some c ∈ Layout.ofConditions conditions → c.formula? now = none := by
    intro c hc
    exact h c (by simpa [Layout.ofConditions] using hc)
  rw [countOf, activeSubscribers]
  congr 1
  apply List.filter_congr
  intro u _
  rw [Bool.eq_iff_iff, Formula.selects_iff, Predicate.eval_formula_eq_yes,
    Predicate.ofConditions_eq]
  simp [Layout.formulas_eq_nil _ now _ hplaces]

end Store

namespace Session

variable {s : Session} {now : Moment}

def total (s : Session) : Nat := (s.database.store.activeSubscribers s.merchantId).length

theorem count_estimate_le {conditions : List Condition} {e : Estimate}
    (h : (s.estimate conditions).outcome = .ok e) : e.count ≤ s.total := by
  obtain ⟨p, hp, hcounted⟩ := Traced.exists_of_outcome_bind h
  obtain ⟨_, _, hestimate⟩ := Traced.exists_of_outcome_bind hcounted
  unfold estimatePredicate at hestimate
  dsimp only at hestimate
  cases hcount : (s.count p).outcome with
  | ok n =>
      rw [hcount] at hestimate
      cases hestimate
      have hn := eq_of_ask_outcome hcount
      have hle := s.database.store.countOf_le p
      rw [merchantId_of_predicate_outcome hp] at hle
      rw [hn]
      exact hle
  | error f =>
      rw [hcount] at hestimate
      dsimp only at hestimate
      split at hestimate
      · cases hestimate
        exact Nat.zero_le _
      · cases hestimate

theorem length_subscriberIds_le {segmentId : String} {a : SegmentAudience}
    (h : (s.resolveSegment segmentId).outcome = .ok a) : a.subscriberIds.length ≤ s.total := by
  rw [SegmentAudience.subscriberIds, List.length_map]
  obtain ⟨⟨g, rows⟩, _, hloaded⟩ := Traced.exists_of_outcome_bind h
  dsimp only at hloaded
  split at hloaded
  · obtain ⟨_, _, htold⟩ := Traced.exists_of_outcome_bind hloaded
    obtain ⟨p, hp, hassembled⟩ := Traced.exists_of_outcome_bind htold
    obtain ⟨_, _, hskipped⟩ := Traced.exists_of_outcome_bind hassembled
    obtain ⟨members, hmembers, hfetched⟩ := Traced.exists_of_outcome_bind hskipped
    cases hfetched
    have hle := s.database.store.countOf_le p
    rw [merchantId_of_predicate_outcome hp] at hle
    dsimp only
    rw [eq_of_ask_outcome hmembers, Store.length_selected]
    exact hle
  · cases hloaded
    exact Nat.zero_le _

/-- Distinct ids of a merchant's subscribers are no more than its subscribers. -/
theorem length_uniqueIds_le {segmentIds : List String} {a : Audience}
    (h : (s.resolveUnion segmentIds).outcome = .ok a) : a.uniqueIds.length ≤ s.total := by
  have hsubset := Audience.uniqueIds_subset (subset_of_resolveUnion_outcome h)
  have hnodup : a.uniqueIds.Nodup := nodup_distinct _
  have hle := (List.subperm_of_subset hnodup hsubset).length_le
  rwa [List.length_map] at hle

/-- What the operations of a session say of how many there are, beside the totals. -/
structure AgreesWith (s : Session) (now : Moment) (t : Statistics) : Prop where
  /-- An estimate of conditions that are all rejected counts everybody. -/
  unfiltered : ∀ conditions, (∀ c ∈ conditions, c.formula? now = none) →
    ∃ e, (s.estimate conditions).outcome = .ok e ∧ e.error = none ∧ e.count = t.totalSubscribers
  /-- A live segment without rows resolves to everybody. -/
  rowless : ∀ g ∈ s.liveSegments, s.rowsOf g = [] →
    ∃ a, (s.resolveSegment g.id).outcome = .ok a ∧ a.subscriberIds.length = t.totalSubscribers
  estimate_le : ∀ conditions e, (s.estimate conditions).outcome = .ok e →
    e.count ≤ t.totalSubscribers
  segment_le : ∀ id a, (s.resolveSegment id).outcome = .ok a →
    a.subscriberIds.length ≤ t.totalSubscribers
  union_le : ∀ ids a, (s.resolveUnion ids).outcome = .ok a →
    a.uniqueIds.length ≤ t.totalSubscribers
  active_le : t.activeSegments ≤ t.totalSegments
  /-- A recount counts the active segments, each once. -/
  recounted : ∃ entries, s.recount.2.outcome = .ok entries ∧
    entries.length = t.activeSegments ∧
      ∀ e ∈ entries, e.error = none ∧ ∃ n : Nat, e.count = .whole n ∧ n ≤ t.totalSubscribers
  average_zero : t.totalSegments = 0 → t.average = 0
  average_nearest : 0 < t.totalSegments → t.totalSegments < 2 ^ 52 → t.totalSubscribers < 2 ^ 52 →
    Number.IsNearest ((t.totalSubscribers : ℚ) / t.totalSegments) t.average

namespace IsReady

variable (h : s.IsReady now)
include h

theorem statistics_outcome :
    s.statistics.outcome = .ok ⟨(s.database.store.segmentsOf s.merchantId).length,
      s.liveSegments.length, s.total⟩ := by
  have hmerchant : ∀ text ∈ [s.merchantId], Text.isEncodable text = true := by
    intro text htext
    rw [List.mem_singleton.mp htext]
    exact h.merchant
  have hsegments : s.database.breakdown? (.segmentCount s.merchantId) = none :=
    h.breakdown?_eq_none hmerchant
  have hsubscribers : s.database.breakdown? (.subscriberCount s.merchantId) = none :=
    h.breakdown?_eq_none hmerchant
  have hlive : s.liveSegments.length =
      ((s.database.store.segmentsOf s.merchantId).filter (·.isActive)).length := by
    rw [liveSegments, Store.liveSegments, List.length_mergeSort]
  unfold statistics
  rw [Traced.outcome_bind_of_ok (ask_outcome hsegments _),
    Traced.outcome_bind_of_ok (ask_outcome hsegments _),
    Traced.outcome_bind_of_ok (ask_outcome hsubscribers _), hlive]
  rfl

/-- A rejected condition asks for nothing, so that the merchant's id is all that is sent. -/
theorem estimate_of_rejected {conditions : List Condition}
    (hrejected : ∀ c ∈ conditions, c.formula? now = none) :
    ∃ e, (s.estimate conditions).outcome = .ok e ∧ e.error = none ∧ e.count = s.total := by
  have hfilled : ∀ c ∈ conditions.filter (!·.isUnfilled), c.formula? now = none := by
    intro c hc
    exact hrejected c (List.mem_filter.mp hc).1
  have hcounts : s.Counts now conditions := by
    apply h.breakdown?_eq_none
    apply Predicate.isEncodable_ofConditions h.merchant
    intro c hc f hf
    rw [hfilled c hc] at hf
    cases hf
  refine ⟨_, estimate_outcome h.clock hcounts, rfl, ?_⟩
  exact Store.countOf_of_rejected _ _ hfilled

theorem resolveSegment_of_rowless {g : Segment} (hg : g ∈ s.liveSegments)
    (hrows : s.rowsOf g = []) :
    ∃ a, (s.resolveSegment g.id).outcome = .ok a ∧ a.subscriberIds.length = s.total := by
  have hstored := s.liveSegments_subset hg
  have hlive := segment?_of_live h.store.names.keys hg
  have hfinds : s.Finds g.id g := by
    rcases h.finds_or_misses (h.encodable_id hstored) with ⟨other, hother⟩ | hmisses
    · have hsame := hother.live
      rw [hlive, Option.some.injEq] at hsame
      rwa [hsame] at hother ⊢
    · have habsent := hmisses.absent
      rw [hlive] at habsent
      cases habsent
  refine ⟨_, resolveSegment_outcome h.clock (h.serves hfinds) hlive (isActive_of_live hg), ?_⟩
  rw [SegmentAudience.subscriberIds, List.length_map]
  dsimp only [audienceOf]
  rw [Store.length_selected]
  have hnone : s.database.store.rowsOf g.id = [] := hrows
  rw [hnone]
  apply Store.countOf_of_rejected
  intro c hc
  cases hc

theorem recount_entries : ∃ entries, s.recount.2.outcome = .ok entries ∧
    entries.length = s.liveSegments.length ∧
      ∀ e ∈ entries, e.error = none ∧ ∃ n : Nat, e.count = .whole n ∧ n ≤ s.total := by
  refine ⟨_, h.recount_outcome, List.length_map _, ?_⟩
  intro e he
  obtain ⟨g, -, rfl⟩ := List.mem_map.mp he
  have hle := s.database.store.countOf_le (s.predicateOf now (s.rowsOf g))
  have hmerchant : (s.predicateOf now (s.rowsOf g)).merchantId = s.merchantId := by
    rw [predicateOf, Predicate.ofConditions_eq]
  rw [hmerchant] at hle
  unfold report
  rw [h.counted_eq g]
  exact ⟨rfl, _, rfl, hle⟩

end IsReady

/-- Whatever a session counts agrees with the totals of its merchant while nothing is wrong. -/
theorem statistics_agrees (s : Session) (now : Moment) (h : s.IsReady now) :
    ∃ t, s.statistics.outcome = .ok t ∧ s.AgreesWith now t := by
  refine ⟨_, h.statistics_outcome, ?_⟩
  constructor
  case unfiltered =>
    intro conditions hrejected
    exact h.estimate_of_rejected hrejected
  case rowless =>
    intro g hg hrows
    exact h.resolveSegment_of_rowless hg hrows
  case estimate_le =>
    intro conditions e he
    exact count_estimate_le he
  case segment_le =>
    intro id a ha
    exact length_subscriberIds_le ha
  case union_le =>
    intro ids a ha
    exact length_uniqueIds_le ha
  case active_le =>
    have hlive := (List.mergeSort_perm
      ((s.database.store.segmentsOf s.merchantId).filter (·.isActive)) Store.segmentLe).length_eq
    have hfilter := List.length_filter_le (·.isActive)
      (s.database.store.segmentsOf s.merchantId)
    exact hlive.trans_le hfilter
  case recounted => exact h.recount_entries
  case average_zero =>
    intro hnone
    exact if_pos hnone
  case average_nearest =>
    intro hsegments hbound hsmall
    exact Statistics.isNearest_average _ hsegments hbound hsmall

/-- A session with five subscribers to two segments, one of which has no rows: the exact average is
a half. -/
def talliedSession : Session :=
  (Sample.session []).withStore
    { Sample.store [Sample.row 0 "browser" "chrome" "AND"] with
      subscribers := ["u1", "u2", "u3", "u4", "u5"].map (Sample.subscriber · "chrome")
      segments := [Sample.segment, { Sample.segment with id := "s2" }] }

theorem isReady_talliedSession : talliedSession.IsReady Sample.now where
  restored := rfl
  clock := rfl
  merchant := by decide +kernel
  store := {
    names := ⟨by decide, by decide +kernel⟩
    kinds := by decide
    rows := by
      intro row hrow
      rw [List.mem_singleton.mp hrow]
      exact Sample.isEncodable_row 0 (by decide +kernel) (by decide +kernel) (by decide +kernel) }

theorem statistics_agrees_talliedSession :
    ∃ t, talliedSession.statistics.outcome = .ok t ∧ t.average = 2 ∧
      talliedSession.AgreesWith Sample.now t := by
  obtain ⟨t, hout, hagrees⟩ :=
    statistics_agrees talliedSession Sample.now isReady_talliedSession
  have htotals := isReady_talliedSession.statistics_outcome
  rw [hout, Except.ok.injEq] at htotals
  refine ⟨t, hout, ?_, hagrees⟩
  rw [htotals]
  decide +kernel

end Session

end Targeting
