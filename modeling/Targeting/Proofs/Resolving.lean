import Targeting.Proofs.ByteOrder
import Targeting.Proofs.Endings
import Targeting.Proofs.Sample
import Targeting.Store.Columns

/-!
The resolution of a segment, case by case. Whether there is a segment is settled before whether it
is active, and this before anybody asks for subscribers; each of the two queries fails in its own
name. What an active segment resolves to is everybody whom its conditions select, by the bytes of
their ids, or it does not resolve at all.
-/

namespace Targeting

open Number

attribute [local irreducible] Condition.formula

/-- What the breakdown of a query is to those who asked, when it is given up after some seconds. -/
def Breakdown.failure (seconds : Binary64) (operation : String) : Breakdown → Failure
  | .driver label => .storeError operation label
  | .silence => .storeTimeout seconds operation
  | .crash c => .crash c

namespace Store

theorem segment?_eq_none_iff {store : Store} {merchantId id : String} :
    store.segment? merchantId id = none ↔
      ¬ ∃ g ∈ store.segments, g.id = id ∧ g.merchantId = merchantId ∧ g.deletedAt = none := by
  simp [segment?, List.find?_eq_none]

/-- Selected subscribers are in the order of their ids, and none of them is there twice. -/
theorem pairwise_selected {store : Store} (hkeys : store.WellKeyed .subscribers) (f : Formula) :
    ((store.selected f).map (·.id)).Pairwise (· < ·) := by
  have hsorted : (store.selected f).Pairwise fun a b => decide (a.id ≤ b.id) = true := by
    apply List.pairwise_mergeSort
    · intro a b c hab hbc
      simp only [decide_eq_true_eq] at hab hbc ⊢
      exact String.le_trans hab hbc
    · intro a b
      simpa using String.le_total a.id b.id
  have hnodup : ((store.selected f).map (·.id)).Nodup := by
    have hkept : ((store.subscribers.filter f.selects).map (·.id)).Nodup :=
      hkeys.1.sublist (List.filter_sublist.map _)
    exact ((List.mergeSort_perm _ _).map _).nodup_iff.mpr hkept
  have hle : ((store.selected f).map (·.id)).Pairwise (· ≤ ·) := by
    rw [List.pairwise_map]
    exact hsorted.imp fun h => by simpa using h
  exact hle.imp₂ (fun a b hab hne => lt_of_le_of_ne hab hne) hnodup

end Store

namespace Session

variable {s : Session} {segmentId : String} {g : Segment} {now : Moment} {seconds : Binary64}

theorem broken_outcome {α : Type} (hseconds : toldSeconds s.timeout = .ok seconds)
    (operation : String) (b : Breakdown) :
    (s.broken operation b : Traced α).outcome = .error (b.failure seconds operation) := by
  cases b with
  | driver label => rfl
  | crash c => rfl
  | silence =>
      unfold broken
      rw [hseconds]
      rfl

theorem ask_outcome_of_breakdown {α : Type} (hseconds : toldSeconds s.timeout = .ok seconds)
    {q : Query} {b : Breakdown} (h : s.database.breakdown? q = some b) (answer : Store → α) :
    (s.ask q answer).outcome = .error (b.failure seconds q.operation) := by
  rw [ask, h]
  exact broken_outcome hseconds q.operation b

theorem resolveSegment_outcome_of_lookup (hseconds : toldSeconds s.timeout = .ok seconds)
    {b : Breakdown} (h : s.database.breakdown? (.segmentById segmentId s.merchantId) = some b) :
    (s.resolveSegment segmentId).outcome = .error (b.failure seconds "segment lookup") := by
  have hasked : (s.ask (.segmentById segmentId s.merchantId) fun store =>
      store.segment? s.merchantId segmentId).outcome =
        .error (b.failure seconds "segment lookup") :=
    ask_outcome_of_breakdown hseconds h _
  exact Traced.outcome_bind_of_error (Traced.outcome_bind_of_error hasked _) _

theorem resolveSegment_outcome_of_rows (hseconds : toldSeconds s.timeout = .ok seconds)
    (hanswered : s.database.breakdown? (.segmentById segmentId s.merchantId) = none)
    (hlive : s.database.store.segment? s.merchantId segmentId = some g)
    (hreadable : g.crash? = none) {b : Breakdown} (h : s.database.rowsBreakdown? = some b) :
    (s.resolveSegment segmentId).outcome = .error (b.failure seconds "segment lookup") := by
  have hasked : (s.ask (.segmentById segmentId s.merchantId) fun store =>
      store.segment? s.merchantId segmentId).outcome = .ok (some g) := by
    rw [ask_outcome hanswered, hlive]
  have hread : (readSegments [g]).outcome = .ok () := by
    simp [readSegments, hreadable, Traced.pure]
  have hrows : (s.askRows "segment lookup" [g] (s.database.store.rowsOf segmentId)).outcome =
      .error (b.failure seconds "segment lookup") := by
    unfold askRows
    rw [h]
    exact broken_outcome hseconds "segment lookup" b
  have hload : (s.loadSegment segmentId).outcome =
      .error (b.failure seconds "segment lookup") := by
    unfold loadSegment
    rw [Traced.outcome_bind_of_ok hasked]
    change (readSegments [g] >>= _).outcome = _
    rw [Traced.outcome_bind_of_ok hread]
    exact Traced.outcome_bind_of_error hrows _
  exact Traced.outcome_bind_of_error hload _

/-- What fetches the subscribers of a segment. -/
def fetchQuery (s : Session) (now : Moment) (g : Segment) : Query :=
  .subscribers "fetch" (s.predicateOf now (s.database.store.rowsOf g.id))

theorem Finds.resolveSegment_outcome_of_breakdown (h : s.Finds segmentId g)
    (hnow : s.now = .ok now) (hseconds : toldSeconds s.timeout = .ok seconds)
    (hactive : g.isActive = true) {b : Breakdown}
    (hfetch : s.database.breakdown? (s.fetchQuery now g) = some b) :
    (s.resolveSegment segmentId).outcome = .error (b.failure seconds "fetch") := by
  obtain ⟨_, hid, _⟩ := Store.segment?_eq_some h.live
  subst hid
  have hpredicate : (s.predicate (ConditionRow.conditions
      (s.database.store.rowsOf g.id))).outcome =
      .ok (s.predicateOf now (s.database.store.rowsOf g.id)) := predicate_outcome hnow _
  have hfails : (s.fetch (s.predicateOf now (s.database.store.rowsOf g.id))).outcome =
      .error (b.failure seconds "fetch") := ask_outcome_of_breakdown hseconds hfetch _
  unfold resolveSegment
  rw [Traced.outcome_bind_of_ok h.loadSegment_outcome]
  dsimp only
  rw [if_pos hactive, Traced.outcome_bind_of_ok (Traced.outcome_tell _),
    Traced.outcome_bind_of_ok hpredicate, Traced.outcome_bind_of_ok (Traced.outcome_tell _),
    Traced.outcome_bind_of_error hfails]

end Session

/-- An audience is that of an active segment, with everybody in it whom the conditions select. -/
structure SegmentAudience.IsWhole (a : SegmentAudience) (s : Session) (now : Moment)
    (g : Segment) : Prop where
  names : a.segmentId = g.id ∧ a.segmentName = g.name ∧ a.isActive = true
  members : a.members.Perm (s.database.store.subscribers.filter
    ((Layout.ofConditions (ConditionRow.conditions (s.database.store.rowsOf g.id))).Admits
      s.merchantId now ·))
  increasing : (a.subscriberIds.map Text.bytesOf).Pairwise (· < ·)
  tokens : a.tokens = a.members.filterMap fun u => u.token.filter (· ≠ "")

namespace Session

/-- Each case of the resolution of a segment, with what it comes to. -/
structure Settles (s : Session) (segmentId : String) (now : Moment) (seconds : Binary64) :
    Prop where
  missing : (s.Misses segmentId ∨ ∃ g, s.Finds segmentId g) →
    ((s.resolveSegment segmentId).outcome = .error (.segmentNotFound segmentId) ↔
      ¬ ∃ g ∈ s.database.store.segments,
        g.id = segmentId ∧ g.merchantId = s.merchantId ∧ g.deletedAt = none)
  inactive : ∀ g, s.Finds segmentId g → g.isActive = false →
    (s.resolveSegment segmentId).outcome = .ok ⟨g.id, g.name, false, [], [], []⟩
  active : ∀ g, s.Finds segmentId g → g.isActive = true →
    s.database.breakdown? (s.fetchQuery now g) = none →
      ∃ a, (s.resolveSegment segmentId).outcome = .ok a ∧ a.IsWhole s now g
  lookupFails : ∀ b, s.database.breakdown? (.segmentById segmentId s.merchantId) = some b →
    (s.resolveSegment segmentId).outcome = .error (b.failure seconds "segment lookup")
  /-- The rows of a segment are loaded in its look-up. -/
  rowsFail : ∀ g b, s.database.breakdown? (.segmentById segmentId s.merchantId) = none →
    s.database.store.segment? s.merchantId segmentId = some g → g.crash? = none →
      s.database.rowsBreakdown? = some b →
        (s.resolveSegment segmentId).outcome = .error (b.failure seconds "segment lookup")
  fetchFails : ∀ g b, s.Finds segmentId g → g.isActive = true →
    s.database.breakdown? (s.fetchQuery now g) = some b →
      (s.resolveSegment segmentId).outcome = .error (b.failure seconds "fetch")
  /-- There is no audience besides the empty one of an inactive segment and the whole one. -/
  whole : ∀ a, (s.resolveSegment segmentId).outcome = .ok a → ∃ g, s.Finds segmentId g ∧
    (g.isActive = false ∧ a = ⟨g.id, g.name, false, [], [], []⟩ ∨
      g.isActive = true ∧ a.IsWhole s now g)

section Settling

variable {s : Session} {segmentId : String} {g : Segment} {now : Moment}

theorem Finds.exists_whole (h : s.Finds segmentId g) (hnow : s.now = .ok now)
    (hkeys : s.database.store.WellKeyed .subscribers)
    (hbytes : ∀ u ∈ s.database.store.subscribers, Text.HasBytes u.id)
    (hactive : g.isActive = true)
    (hfetch : s.database.breakdown? (s.fetchQuery now g) = none) :
    ∃ a, (s.resolveSegment segmentId).outcome = .ok a ∧ a.IsWhole s now g := by
  obtain ⟨_, hid, _⟩ := Store.segment?_eq_some h.live
  subst hid
  have hserved : s.Serves now g := ⟨h.answered, h.readable, h.loaded, hfetch⟩
  have hselects : (s.predicateOf now (s.database.store.rowsOf g.id)).formula.selects = fun u =>
      decide ((Layout.ofConditions (ConditionRow.conditions (s.database.store.rowsOf g.id))).Admits
        s.merchantId now u) := by
    funext u
    rw [Bool.eq_iff_iff, Formula.selects_iff, predicateOf, Layout.eval_ofConditions_eq_yes,
      decide_eq_true_iff]
  refine ⟨_, resolveSegment_outcome hnow hserved h.live hactive, ⟨rfl, rfl, rfl⟩, ?_, ?_, ?_⟩
  · simp only [audienceOf, Store.selected, hselects]
    exact List.mergeSort_perm _ _
  · have hstored : ∀ id ∈ (s.database.store.selected
        (s.predicateOf now (s.database.store.rowsOf g.id)).formula).map (·.id),
          Text.HasBytes id := by
      intro id hid
      obtain ⟨u, hu, rfl⟩ := List.mem_map.mp hid
      rw [Store.selected, List.mem_mergeSort] at hu
      exact hbytes u (List.mem_filter.mp hu).1
    have hids := Store.pairwise_selected hkeys
      (s.predicateOf now (s.database.store.rowsOf g.id)).formula
    rw [List.pairwise_map]
    exact hids.imp_of_mem fun ha hb hlt => Text.bytesOf_lt (hstored _ ha) (hstored _ hb) hlt
  · refine List.filterMap_congr fun u _ => ?_
    cases u.token with
    | none => rfl
    | some t => by_cases ht : t = "" <;> simp [nonEmpty?, Option.filter, ht]

theorem Finds.resolveSegment_outcome_ne (h : s.Finds segmentId g) :
    (s.resolveSegment segmentId).outcome ≠ .error (.segmentNotFound segmentId) := by
  intro hout
  cases s.ending segmentId with
  | missing hmisses _ =>
      have habsent := hmisses.absent
      rw [h.live] at habsent
      cases habsent
  | inactive _ _ _ hother =>
      rw [hout] at hother
      cases hother
  | resolved _ _ _ _ _ hother =>
      rw [hout] at hother
      cases hother
  | broken f hf hother =>
      rw [hout] at hother
      cases hother
      cases hf

end Settling

/-- However a segment is resolved, it ends in one of the cases, and no audience is only a part. The
ids of subscribers are keys, and like all text in a store they have bytes. -/
theorem resolveSegment_settles (s : Session) (segmentId : String) (now : Moment)
    (seconds : Binary64) (hnow : s.now = .ok now) (hseconds : toldSeconds s.timeout = .ok seconds)
    (hkeys : s.database.store.WellKeyed .subscribers)
    (hbytes : ∀ u ∈ s.database.store.subscribers, Text.HasBytes u.id) :
    s.Settles segmentId now seconds where
  missing := by
    rintro (hmisses | ⟨g, hfinds⟩)
    · rw [hmisses.resolveSegment_outcome, ← Store.segment?_eq_none_iff]
      exact iff_of_true rfl hmisses.absent
    · rw [← Store.segment?_eq_none_iff, hfinds.live]
      exact iff_of_false hfinds.resolveSegment_outcome_ne (by simp)
  inactive := fun g hfinds hinactive => hfinds.resolveSegment_outcome_of_inactive hinactive
  active := fun g hfinds hactive hfetch =>
    hfinds.exists_whole hnow hkeys hbytes hactive hfetch
  lookupFails := fun b hb => resolveSegment_outcome_of_lookup hseconds hb
  rowsFail := fun g b hanswered hlive hreadable hb =>
    resolveSegment_outcome_of_rows hseconds hanswered hlive hreadable hb
  fetchFails := fun g b hfinds hactive hb =>
    hfinds.resolveSegment_outcome_of_breakdown hnow hseconds hactive hb
  whole := by
    intro a ha
    cases s.ending segmentId with
    | missing hmisses hout =>
        rw [ha] at hout
        cases hout
    | broken f hf hout =>
        rw [ha] at hout
        cases hout
    | inactive g hfinds hinactive hout =>
        rw [ha] at hout
        exact ⟨g, hfinds, .inl ⟨hinactive, Except.ok.inj hout⟩⟩
    | resolved g hfinds hactive a' _ hout =>
        refine ⟨g, hfinds, .inr ⟨hactive, ?_⟩⟩
        cases hfetch : s.database.breakdown? (s.fetchQuery now g) with
        | some b =>
            rw [hfinds.resolveSegment_outcome_of_breakdown hnow hseconds hactive hfetch] at ha
            cases ha
        | none =>
            obtain ⟨other, hother, hwhole⟩ :=
              hfinds.exists_whole hnow hkeys hbytes hactive hfetch
            rw [ha] at hother
            exact Except.ok.inj hother ▸ hwhole

/-- A session with subscribers who are not stored in the order of their ids. The characters of two
ids are in another order than their halves of surrogate pairs are. -/
def shuffledSession : Session :=
  (Sample.session [Sample.row 0 "operating_system" "linux" "AND"]).withStore
    { Sample.store [Sample.row 0 "operating_system" "linux" "AND"] with
      subscribers :=
        [Sample.subscriber "𐀀" "chrome", Sample.subscriber "ﬀ" "opera",
          { Sample.subscriber "a" "chrome" with token := some "t" }] }

theorem finds_shuffledSession : shuffledSession.Finds "s1" Sample.segment :=
  ⟨by decide +kernel, rfl, by decide, by decide⟩

theorem breakdown?_fetchQuery_shuffledSession :
    shuffledSession.database.breakdown? (shuffledSession.fetchQuery Sample.now Sample.segment) =
      none := by
  have hrows : shuffledSession.database.store.rowsOf Sample.segment.id =
      [Sample.row 0 "operating_system" "linux" "AND"] :=
    rowsOf_eq_of_ordered (by decide) (by decide)
  unfold fetchQuery
  rw [hrows]
  decide +kernel

theorem resolveSegment_settles_shuffledSession :
    shuffledSession.Settles "s1" Sample.now (.ofNat 10) ∧
      ∃ a, (shuffledSession.resolveSegment "s1").outcome = .ok a ∧
        a.IsWhole shuffledSession Sample.now Sample.segment := by
  have hbytes : ∀ u ∈ shuffledSession.database.store.subscribers, Text.HasBytes u.id := by
    intro u hu
    rcases List.mem_cons.mp hu with rfl | hu
    · exact ⟨[0x10000], by decide, by decide +kernel⟩
    rcases List.mem_cons.mp hu with rfl | hu
    · exact ⟨[0xFB00], by decide, by decide +kernel⟩
    obtain rfl := List.mem_singleton.mp hu
    exact ⟨[0x61], by decide, by decide +kernel⟩
  have hseconds : toldSeconds shuffledSession.timeout = .ok (.ofNat 10) := by decide +kernel
  have hsettles := resolveSegment_settles shuffledSession "s1" Sample.now (.ofNat 10) rfl hseconds
    (by decide) hbytes
  exact ⟨hsettles, hsettles.active Sample.segment finds_shuffledSession rfl
    breakdown?_fetchQuery_shuffledSession⟩

end Session

end Targeting
