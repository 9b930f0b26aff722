import Targeting.Audience.Recount
import Targeting.Proofs.Places

/-!
What a session answers while the store does. A run of a session is its events and its outcome, and
the outcome of a run in steps is the outcome of its steps; from this follows what an estimate and
the resolution of a segment come to when none of their queries breaks down.
-/

namespace Targeting

attribute [local irreducible] Condition.formula

namespace Traced

variable {α β : Type}

@[simp] theorem outcome_pure (a : α) : (Pure.pure a : Traced α).outcome = .ok a := rfl

@[simp] theorem outcome_fail (f : Failure) : (fail f : Traced α).outcome = .error f := rfl

@[simp] theorem outcome_tell (events : List Event) : (tell events).outcome = .ok () := rfl

/-- A run whose first step comes to something goes on with it; the events do not matter to it. -/
theorem outcome_bind_of_ok {x : Traced α} {a : α} (h : x.outcome = .ok a)
    (next : α → Traced β) : (x >>= next).outcome = (next a).outcome := by
  change (x.bind next).outcome = _
  rw [Traced.bind, h]

theorem outcome_bind_of_error {x : Traced α} {f : Failure} (h : x.outcome = .error f)
    (next : α → Traced β) : (x >>= next).outcome = .error f := by
  change (x.bind next).outcome = _
  rw [Traced.bind, h]

/-- A run in two steps that comes to something has come to something after the first. -/
theorem exists_of_outcome_bind {x : Traced α} {next : α → Traced β} {b : β}
    (h : (x >>= next).outcome = .ok b) :
    ∃ a, x.outcome = .ok a ∧ (next a).outcome = .ok b := by
  cases hx : x.outcome with
  | error f =>
      rw [outcome_bind_of_error hx] at h
      cases h
  | ok a =>
      rw [outcome_bind_of_ok hx] at h
      exact ⟨a, rfl, h⟩

/-- Only what a first step comes to matters to the second. -/
theorem bind_congr {x : Traced α} {next other : α → Traced β}
    (h : ∀ a, x.outcome = .ok a → next a = other a) : x >>= next = x >>= other := by
  change x.bind next = x.bind other
  cases hx : x.outcome with
  | error f => simp only [Traced.bind, hx]
  | ok a => simp only [Traced.bind, hx, h a hx]

end Traced

/-- The places of stored rows. A row that cannot be read leaves its place empty. -/
def Layout.ofRows (rows : List ConditionRow) : Layout := rows.map fun row => row.condition.toOption

namespace Session

/-- The store answers all that the resolution of a segment takes: its look-up, the loading of its
rows, and the fetch of the subscribers that its stored conditions select. -/
structure Serves (s : Session) (now : Moment) (g : Segment) : Prop where
  found : s.database.breakdown? (.segmentById g.id s.merchantId) = none
  readable : g.crash? = none
  loaded : s.database.rowsBreakdown? = none
  fetched : s.database.breakdown?
    (.subscribers "fetch" (s.predicateOf now (s.database.store.rowsOf g.id))) = none

/-- The store answers the count that an estimate takes. -/
def Counts (s : Session) (now : Moment) (conditions : List Condition) : Prop :=
  s.database.breakdown? (.subscribers "count"
    (.ofConditions (conditions.filter (!·.isUnfilled)) s.merchantId now)) = none

/-- What an active segment resolves to, given its rows and its members. -/
def audienceOf (s : Session) (now : Moment) (g : Segment) (rows : List ConditionRow)
    (members : List Subscriber) : SegmentAudience :=
  ⟨g.id, g.name, true, members, ConditionRow.malformed rows, (s.predicateOf now rows).skipped⟩

/-- Rows that all belong to a segment and lie in order are its rows as they are. -/
theorem rowsOf_eq_of_ordered {store : Store} {segmentId : String}
    (hof : ∀ row ∈ store.conditionRows, row.isOf segmentId = true)
    (hordered : store.conditionRows.Pairwise fun a b => a.position.le b.position = true) :
    store.rowsOf segmentId = store.conditionRows := by
  rw [Store.rowsOf, List.filter_eq_self.mpr hof]
  exact List.mergeSort_of_pairwise hordered

theorem ask_outcome {α : Type} {s : Session} {q : Query}
    (h : s.database.breakdown? q = none) (answer : Store → α) :
    (s.ask q answer).outcome = .ok (answer s.database.store) := by
  rw [ask, h]
  rfl

theorem exists_broken_outcome {α : Type} (s : Session) (operation : String) (b : Breakdown) :
    ∃ f, (s.broken operation b : Traced α).outcome = .error f := by
  cases b with
  | driver label => exact ⟨_, rfl⟩
  | crash c => exact ⟨_, rfl⟩
  | silence =>
      unfold broken
      cases toldSeconds s.timeout <;> exact ⟨_, rfl⟩

/-- A query that comes to something comes to its answer. -/
theorem eq_of_ask_outcome {α : Type} {s : Session} {q : Query} {answer : Store → α} {a : α}
    (h : (s.ask q answer).outcome = .ok a) : a = answer s.database.store := by
  cases hq : s.database.breakdown? q with
  | none =>
      rw [ask_outcome hq] at h
      exact (Except.ok.inj h).symm
  | some b =>
      obtain ⟨f, hf⟩ := s.exists_broken_outcome (α := α) q.operation b
      rw [ask, hq, hf] at h
      cases h

theorem askRows_outcome {α : Type} {s : Session} (h : s.database.rowsBreakdown? = none)
    (operation : String) (segments : List Segment) (a : α) :
    (s.askRows operation segments a).outcome = .ok a := by
  unfold askRows
  rw [h]
  cases segments <;> rfl

theorem eq_of_askRows_outcome {α : Type} {s : Session} {operation : String}
    {segments : List Segment} {a b : α} (h : (s.askRows operation segments a).outcome = .ok b) :
    b = a := by
  cases hrows : s.database.rowsBreakdown? with
  | none =>
      rw [askRows_outcome hrows] at h
      exact (Except.ok.inj h).symm
  | some broken =>
      obtain ⟨f, hf⟩ := s.exists_broken_outcome (α := α) operation broken
      unfold askRows at h
      cases segments with
      | nil =>
          rw [hrows] at h
          exact (Except.ok.inj h).symm
      | cons g rest =>
          rw [hrows] at h
          rw [hf] at h
          cases h

theorem readClock_outcome {s : Session} {now : Moment} (h : s.now = .ok now) :
    s.readClock.outcome = .ok now := by
  rw [readClock, h]
  rfl

/-- With a clock, the predicate of conditions does not depend on whether there are any. -/
theorem predicate_outcome {s : Session} {now : Moment} (h : s.now = .ok now)
    (conditions : List Condition) :
    (s.predicate conditions).outcome = .ok (.ofConditions conditions s.merchantId now) := by
  unfold predicate
  cases conditions with
  | nil => rfl
  | cons c rest =>
      rw [if_neg (by simp), Traced.outcome_bind_of_ok (readClock_outcome h)]
      rfl

/-- A live segment that the store can read is loaded with its rows. -/
theorem loadSegment_outcome {s : Session} {g : Segment}
    (hfound : s.database.breakdown? (.segmentById g.id s.merchantId) = none)
    (hreadable : g.crash? = none) (hrows : s.database.rowsBreakdown? = none)
    (hlive : s.database.store.segment? s.merchantId g.id = some g) :
    (s.loadSegment g.id).outcome = .ok (g, s.database.store.rowsOf g.id) := by
  have hasked : (s.ask (.segmentById g.id s.merchantId) fun store =>
      store.segment? s.merchantId g.id).outcome = .ok (some g) := by
    rw [ask_outcome hfound, hlive]
  have hread : (readSegments [g]).outcome = .ok () := by
    simp [readSegments, hreadable, Traced.pure]
  unfold loadSegment
  rw [Traced.outcome_bind_of_ok hasked]
  change (readSegments [g] >>= _).outcome = _
  rw [Traced.outcome_bind_of_ok hread, Traced.outcome_bind_of_ok (askRows_outcome hrows _ _ _)]
  rfl

theorem fetch_outcome {s : Session} {p : Predicate}
    (h : s.database.breakdown? (.subscribers "fetch" p) = none) :
    (s.fetch p).outcome = .ok (s.database.store.selected p.formula) :=
  ask_outcome h _

/-- An active segment resolves to the subscribers that its stored conditions select. -/
theorem resolveSegment_outcome {s : Session} {now : Moment} {g : Segment}
    (hnow : s.now = .ok now) (hserved : s.Serves now g)
    (hlive : s.database.store.segment? s.merchantId g.id = some g) (hactive : g.isActive = true) :
    (s.resolveSegment g.id).outcome =
      .ok (s.audienceOf now g (s.database.store.rowsOf g.id)
        (s.database.store.selected
          (s.predicateOf now (s.database.store.rowsOf g.id)).formula)) := by
  have hload := loadSegment_outcome hserved.found hserved.readable hserved.loaded hlive
  have hpredicate : (s.predicate (ConditionRow.conditions
      (s.database.store.rowsOf g.id))).outcome =
      .ok (s.predicateOf now (s.database.store.rowsOf g.id)) := predicate_outcome hnow _
  unfold resolveSegment
  rw [Traced.outcome_bind_of_ok hload]
  dsimp only
  rw [if_pos hactive, Traced.outcome_bind_of_ok (Traced.outcome_tell _),
    Traced.outcome_bind_of_ok hpredicate, Traced.outcome_bind_of_ok (Traced.outcome_tell _),
    Traced.outcome_bind_of_ok (fetch_outcome hserved.fetched)]
  rfl

/-- An estimate counts the subscribers that the filled conditions select. -/
theorem estimate_outcome {s : Session} {now : Moment} {conditions : List Condition}
    (hnow : s.now = .ok now) (hcounts : s.Counts now conditions) :
    (s.estimate conditions).outcome =
      .ok ⟨s.database.store.countOf
          (Predicate.ofConditions (conditions.filter (!·.isUnfilled)) s.merchantId now).formula,
        none,
        (Predicate.ofConditions (conditions.filter (!·.isUnfilled)) s.merchantId now).skipped⟩ := by
  have hcount : (s.count (.ofConditions (conditions.filter (!·.isUnfilled)) s.merchantId
      now)).outcome = _ := ask_outcome hcounts _
  unfold estimate
  rw [Traced.outcome_bind_of_ok (predicate_outcome hnow _),
    Traced.outcome_bind_of_ok (Traced.outcome_tell _)]
  dsimp only [estimatePredicate]
  rw [hcount]

end Session

end Targeting
