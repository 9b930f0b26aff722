import Targeting.Proofs.Tenancy

/-!
How the resolution of a segment ends. The look-up decides first: there is no such segment, or there
is one that is not active, or one whose subscribers are asked for. What else can happen is that a
step breaks down, and then the failure is one of the store or one that nobody expects.
-/

namespace Targeting

attribute [local irreducible] Condition.formula

/-- A query did not come to an answer: the store failed, or something happened that nobody
expects. -/
def Failure.isBreakdown : Failure → Bool
  | .storeTimeout _ _ | .storeError _ _ | .crash _ => true
  | _ => false

namespace Traced

variable {α β : Type}

/-- The only way for a run to fail is that something in it breaks down. -/
def OnlyBreaksDown (x : Traced α) : Prop := ∀ f, x.outcome = .error f → f.isBreakdown = true

theorem onlyBreaksDown_of_ok {x : Traced α} {a : α} (h : x.outcome = .ok a) :
    x.OnlyBreaksDown := by
  intro f hf
  rw [h] at hf
  cases hf

theorem onlyBreaksDown_of_error {x : Traced α} {f : Failure} (h : x.outcome = .error f)
    (hf : f.isBreakdown = true) : x.OnlyBreaksDown := by
  intro g hg
  rw [h] at hg
  cases hg
  exact hf

/-- A run in two steps that fails has failed at the first or, after it, at the second. -/
theorem error_of_outcome_bind {x : Traced α} {next : α → Traced β} {f : Failure}
    (h : (x >>= next).outcome = .error f) :
    x.outcome = .error f ∨ ∃ a, x.outcome = .ok a ∧ (next a).outcome = .error f := by
  cases hx : x.outcome with
  | error g =>
      rw [outcome_bind_of_error hx] at h
      cases h
      exact .inl rfl
  | ok a =>
      rw [outcome_bind_of_ok hx] at h
      exact .inr ⟨a, rfl, h⟩

theorem OnlyBreaksDown.bind {x : Traced α} {next : α → Traced β} (h : x.OnlyBreaksDown)
    (hnext : ∀ a, (next a).OnlyBreaksDown) : (x >>= next).OnlyBreaksDown := by
  intro f hf
  rcases error_of_outcome_bind hf with hx | ⟨a, _, ha⟩
  · exact h f hx
  · exact hnext a f ha

end Traced

namespace Session

open Traced

section Steps

variable {α : Type} (s : Session)

theorem onlyBreaksDown_broken (operation : String) (b : Breakdown) :
    (s.broken operation b : Traced α).OnlyBreaksDown := by
  cases b with
  | driver label => exact onlyBreaksDown_of_error (f := .storeError operation label) rfl rfl
  | crash c => exact onlyBreaksDown_of_error (f := .crash c) rfl rfl
  | silence =>
      unfold broken
      cases toldSeconds s.timeout with
      | ok seconds => exact onlyBreaksDown_of_error (f := .storeTimeout seconds operation) rfl rfl
      | error c => exact onlyBreaksDown_of_error (f := .crash c) rfl rfl

theorem onlyBreaksDown_ask (q : Query) (answer : Store → α) :
    (s.ask q answer).OnlyBreaksDown := by
  cases hq : s.database.breakdown? q with
  | none => exact onlyBreaksDown_of_ok (ask_outcome hq answer)
  | some b =>
      rw [ask, hq]
      exact s.onlyBreaksDown_broken q.operation b

theorem onlyBreaksDown_askRows (operation : String) (segments : List Segment) (a : α) :
    (s.askRows operation segments a).OnlyBreaksDown := by
  cases hrows : s.database.rowsBreakdown? with
  | none => exact onlyBreaksDown_of_ok (askRows_outcome hrows operation segments a)
  | some b =>
      cases segments with
      | nil =>
          rw [askRows_nil]
          exact onlyBreaksDown_of_ok (a := a) rfl
      | cons g rest =>
          unfold askRows
          rw [hrows]
          exact s.onlyBreaksDown_broken operation b

theorem onlyBreaksDown_readSegments (segments : List Segment) :
    (readSegments segments).OnlyBreaksDown := by
  unfold readSegments
  cases segments.findSome? (·.crash?) with
  | none => exact onlyBreaksDown_of_ok (a := ()) rfl
  | some c => exact onlyBreaksDown_of_error (f := .crash c) rfl rfl

theorem onlyBreaksDown_readClock : s.readClock.OnlyBreaksDown := by
  unfold readClock
  cases s.now with
  | ok now => exact onlyBreaksDown_of_ok (a := now) rfl
  | error c => exact onlyBreaksDown_of_error (f := .crash c) rfl rfl

theorem onlyBreaksDown_predicate (conditions : List Condition) :
    (s.predicate conditions).OnlyBreaksDown := by
  unfold predicate
  split
  · exact onlyBreaksDown_of_ok rfl
  · exact s.onlyBreaksDown_readClock.bind fun now => onlyBreaksDown_of_ok rfl

end Steps

/-- The look-up of a segment is answered, and there is a live one of the merchant, which can be read
together with its rows. Nothing in this is about subscribers. -/
structure Finds (s : Session) (segmentId : String) (g : Segment) : Prop where
  answered : s.database.breakdown? (.segmentById segmentId s.merchantId) = none
  live : s.database.store.segment? s.merchantId segmentId = some g
  readable : g.crash? = none
  loaded : s.database.rowsBreakdown? = none

/-- The look-up of a segment is answered, and the merchant has no live one with this id. -/
structure Misses (s : Session) (segmentId : String) : Prop where
  answered : s.database.breakdown? (.segmentById segmentId s.merchantId) = none
  absent : s.database.store.segment? s.merchantId segmentId = none

section LookUp

variable {s : Session} {segmentId : String} {g : Segment}

theorem answered_of_ask_outcome {α : Type} {q : Query} {answer : Store → α} {a : α}
    (h : (s.ask q answer).outcome = .ok a) : s.database.breakdown? q = none := by
  cases hq : s.database.breakdown? q with
  | none => rfl
  | some b =>
      obtain ⟨f, hf⟩ := s.exists_broken_outcome (α := α) q.operation b
      rw [ask, hq, hf] at h
      cases h

theorem loaded_of_askRows_outcome {α : Type} {operation : String} {rest : List Segment} {a b : α}
    (h : (s.askRows operation (g :: rest) a).outcome = .ok b) :
    s.database.rowsBreakdown? = none := by
  cases hrows : s.database.rowsBreakdown? with
  | none => rfl
  | some broken =>
      obtain ⟨f, hf⟩ := s.exists_broken_outcome (α := α) operation broken
      unfold askRows at h
      rw [hrows] at h
      rw [hf] at h
      cases h

theorem readable_of_readSegments_outcome {segments : List Segment}
    (h : (readSegments segments).outcome = .ok ()) : ∀ g ∈ segments, g.crash? = none := by
  unfold readSegments at h
  cases hcrash : segments.findSome? (·.crash?) with
  | none => exact List.findSome?_eq_none_iff.mp hcrash
  | some c =>
      rw [hcrash] at h
      cases h

theorem Finds.loadSegment_outcome (h : s.Finds segmentId g) :
    (s.loadSegment segmentId).outcome = .ok (g, s.database.store.rowsOf segmentId) := by
  obtain ⟨_, hid, _⟩ := Store.segment?_eq_some h.live
  subst hid
  exact Session.loadSegment_outcome h.answered h.readable h.loaded h.live

theorem finds_of_loadSegment_outcome {rows : List ConditionRow}
    (h : (s.loadSegment segmentId).outcome = .ok (g, rows)) : s.Finds segmentId g := by
  obtain ⟨found, hasked, hfound⟩ := exists_of_outcome_bind h
  obtain ⟨_, hread, hreadable⟩ := exists_of_outcome_bind hfound
  obtain ⟨loaded, hrows, hloaded⟩ := exists_of_outcome_bind hreadable
  cases found with
  | none => cases hloaded
  | some other =>
      cases hloaded
      exact ⟨answered_of_ask_outcome hasked, (eq_of_ask_outcome hasked).symm,
        readable_of_readSegments_outcome hread g List.mem_cons_self,
        loaded_of_askRows_outcome hrows⟩

theorem Misses.loadSegment_outcome (h : s.Misses segmentId) :
    (s.loadSegment segmentId).outcome = .error (.segmentNotFound segmentId) := by
  have hasked : (s.ask (.segmentById segmentId s.merchantId) fun store =>
      store.segment? s.merchantId segmentId).outcome = .ok none := by
    rw [ask_outcome h.answered, h.absent]
  unfold loadSegment
  rw [outcome_bind_of_ok hasked]
  change (readSegments [] >>= _).outcome = _
  rw [outcome_bind_of_ok (a := ()) rfl]
  change (s.askRows _ [] _ >>= _).outcome = _
  rw [askRows_nil]
  rfl

/-- A look-up that fails has missed the segment or broken down. -/
theorem misses_of_loadSegment_outcome {f : Failure}
    (h : (s.loadSegment segmentId).outcome = .error f) :
    s.Misses segmentId ∧ f = .segmentNotFound segmentId ∨ f.isBreakdown = true := by
  rcases error_of_outcome_bind h with hasked | ⟨found, hasked, hfound⟩
  · exact .inr (s.onlyBreaksDown_ask _ _ f hasked)
  rcases error_of_outcome_bind hfound with hread | ⟨_, _, hreadable⟩
  · exact .inr (onlyBreaksDown_readSegments _ f hread)
  rcases error_of_outcome_bind hreadable with hrows | ⟨rows, _, hloaded⟩
  · exact .inr (s.onlyBreaksDown_askRows _ _ _ f hrows)
  cases found with
  | some g => cases hloaded
  | none =>
      cases hloaded
      exact .inl ⟨⟨answered_of_ask_outcome hasked, (eq_of_ask_outcome hasked).symm⟩, rfl⟩

end LookUp

/-- The ways in which the resolution of a segment ends. -/
inductive Ending (s : Session) (segmentId : String) : Prop where
  | missing (h : s.Misses segmentId)
      (hout : (s.resolveSegment segmentId).outcome = .error (.segmentNotFound segmentId))
  | inactive (g : Segment) (h : s.Finds segmentId g) (hactive : g.isActive = false)
      (hout : (s.resolveSegment segmentId).outcome = .ok ⟨g.id, g.name, false, [], [], []⟩)
  | resolved (g : Segment) (h : s.Finds segmentId g) (hactive : g.isActive = true)
      (a : SegmentAudience) (ha : a.isActive = true)
      (hout : (s.resolveSegment segmentId).outcome = .ok a)
  | broken (f : Failure) (hf : f.isBreakdown = true)
      (hout : (s.resolveSegment segmentId).outcome = .error f)

section Ending

variable {s : Session} {segmentId : String} {g : Segment}

theorem Misses.resolveSegment_outcome (h : s.Misses segmentId) :
    (s.resolveSegment segmentId).outcome = .error (.segmentNotFound segmentId) :=
  outcome_bind_of_error h.loadSegment_outcome _

/-- An inactive segment resolves to nobody without a look at the subscribers. -/
theorem Finds.resolveSegment_outcome_of_inactive (h : s.Finds segmentId g)
    (hactive : g.isActive = false) :
    (s.resolveSegment segmentId).outcome = .ok ⟨g.id, g.name, false, [], [], []⟩ := by
  unfold resolveSegment
  rw [outcome_bind_of_ok h.loadSegment_outcome]
  dsimp only
  rw [if_neg (by simp [hactive])]
  rfl

theorem Finds.ending_of_active (h : s.Finds segmentId g) (hactive : g.isActive = true) :
    s.Ending segmentId := by
  generalize hrun : (s.resolveSegment segmentId).outcome = result
  have hsteps := hrun
  unfold resolveSegment at hsteps
  rw [outcome_bind_of_ok h.loadSegment_outcome] at hsteps
  dsimp only at hsteps
  rw [if_pos hactive] at hsteps
  cases result with
  | error f =>
      refine .broken f ?_ hrun
      refine OnlyBreaksDown.bind (onlyBreaksDown_of_ok (outcome_tell _)) (fun _ => ?_) f hsteps
      refine (s.onlyBreaksDown_predicate _).bind fun p => ?_
      refine (onlyBreaksDown_of_ok (outcome_tell _)).bind fun _ => ?_
      refine (s.onlyBreaksDown_ask _ _).bind fun members => ?_
      exact (onlyBreaksDown_of_ok (outcome_tell _)).bind fun _ => onlyBreaksDown_of_ok rfl
  | ok a =>
      refine .resolved g h hactive a ?_ hrun
      obtain ⟨_, _, htold⟩ := exists_of_outcome_bind hsteps
      obtain ⟨_, _, hassembled⟩ := exists_of_outcome_bind htold
      obtain ⟨_, _, hskipped⟩ := exists_of_outcome_bind hassembled
      obtain ⟨members, _, hfetched⟩ := exists_of_outcome_bind hskipped
      cases hfetched
      rfl

theorem ending (s : Session) (segmentId : String) : s.Ending segmentId := by
  cases hload : (s.loadSegment segmentId).outcome with
  | error f =>
      have hfails : (s.resolveSegment segmentId).outcome = .error f :=
        outcome_bind_of_error hload _
      rcases misses_of_loadSegment_outcome hload with ⟨hmisses, rfl⟩ | hf
      · exact .missing hmisses hfails
      · exact .broken f hf hfails
  | ok found =>
      obtain ⟨g, rows⟩ := found
      have hfinds := finds_of_loadSegment_outcome hload
      cases hactive : g.isActive with
      | true => exact hfinds.ending_of_active hactive
      | false =>
          exact .inactive g hfinds hactive (hfinds.resolveSegment_outcome_of_inactive hactive)

end Ending

end Session

end Targeting
