import Targeting.Proofs.Ownership
import Targeting.Proofs.Sample
import Targeting.Proofs.Tenancy

/-!
Tenants are isolated from each other. Whatever a session is asked to do for its merchant, it answers
the same on all stores that agree on the merchant, finds none but active subscribers of the
merchant, and changes no row of anybody else.
-/

namespace Targeting

attribute [local irreducible] Condition.formula

/-- What a session can be asked to do for its merchant. -/
inductive Operation where
  | estimate (conditions : List Condition)
  | statistics
  | resolveSegment (segmentId : String)
  | resolveAudience (segmentIds : List String)
  | campaignSegmentIds (campaignId : String)
  | resolveCampaign (campaignId : String)
  | recount

namespace Operation

/-- What comes of an operation that does not fail. -/
def Answer : Operation → Type
  | .estimate _ => Estimate
  | .statistics => Statistics
  | .resolveSegment _ => SegmentAudience
  | .resolveAudience _ => Audience
  | .campaignSegmentIds _ => List String
  | .resolveCampaign _ => Audience
  | .recount => List RecountEntry

/-- The ids of subscribers in an answer. -/
def subscriberIds : (op : Operation) → op.Answer → List String
  | .resolveSegment _, a => SegmentAudience.subscriberIds a
  | .resolveAudience _, a => Audience.uniqueIds a
  | .resolveCampaign _, a => Audience.uniqueIds a
  | _, _ => []

/-- The delivery tokens in an answer. -/
def tokens : (op : Operation) → op.Answer → List String
  | .resolveSegment _, a => SegmentAudience.tokens a
  | .resolveAudience _, a => Audience.tokens a
  | .resolveCampaign _, a => Audience.tokens a
  | _, _ => []

end Operation

namespace Session

/-- Runs an operation: the store afterwards, and what was answered. Only a recount writes. -/
def perform (s : Session) : (op : Operation) → Store × Traced op.Answer
  | .estimate conditions => (s.database.store, s.estimate conditions)
  | .statistics => (s.database.store, s.statistics)
  | .resolveSegment segmentId => (s.database.store, s.resolveSegment segmentId)
  | .resolveAudience segmentIds => (s.database.store, s.resolveUnion segmentIds)
  | .campaignSegmentIds campaignId => (s.database.store, s.targets campaignId)
  | .resolveCampaign campaignId => (s.database.store, s.resolveCampaign campaignId)
  | .recount => s.recount

section Recount

variable {s : Session} {other : Store}

/-- What a recount has to work on are live segments of its merchant. -/
theorem mem_of_loadLiveSegments_outcome {work : List (Segment × List ConditionRow)}
    (h : s.loadLiveSegments.outcome = .ok work) :
    ∀ p ∈ work, p.1 ∈ s.database.store.liveSegments s.merchantId := by
  obtain ⟨segments, hsegments, hread⟩ := Traced.exists_of_outcome_bind h
  obtain ⟨_, _, hrows⟩ := Traced.exists_of_outcome_bind hread
  rw [eq_of_askRows_outcome hrows, eq_of_ask_outcome hsegments]
  intro p hp
  obtain ⟨g, hg, rfl⟩ := List.mem_map.mp hp
  exact hg

theorem loadLiveSegments_withStore (hagree : s.database.store.AgreeOn s.merchantId other) :
    (s.withStore other).loadLiveSegments = s.loadLiveSegments := by
  have hfound := s.ask_withStore other (.liveSegments s.merchantId)
    (fun store => store.liveSegments s.merchantId) hagree.liveSegments_eq
  unfold loadLiveSegments
  dsimp only
  rw [merchantId_withStore, store_withStore, hfound]
  refine Traced.bind_congr fun segments hsegments => ?_
  refine Traced.bind_congr fun _ _ => ?_
  have hwork : (segments.map fun g => (g, other.rowsOf g.id)) =
      segments.map fun g => (g, s.database.store.rowsOf g.id) := by
    refine List.map_congr_left fun g hg => ?_
    rw [eq_of_ask_outcome hsegments] at hg
    obtain ⟨hmem, hmerchant⟩ := Store.mem_liveSegments hg
    rw [hagree.rowsOf_eq hmem hmerchant]
  rw [askRows_withStore, hwork]

/-- The merchant owns the segments that a recount loads, in both of the stores. -/
theorem putsOwn_of_loadLiveSegments {work : List (Segment × List ConditionRow)}
    (hkeys : s.database.store.WellKeyed .segments) (hotherKeys : other.WellKeyed .segments)
    (hagree : s.database.store.AgreeOn s.merchantId other)
    (hwork : s.loadLiveSegments.outcome = .ok work) :
    Store.PutsOwn s.merchantId (work.map (·.1.id)) s.database.store other s.database.store
      other := by
  refine ⟨.start hkeys hotherKeys hagree, ?_⟩
  intro id hid
  obtain ⟨p, hp, rfl⟩ := List.mem_map.mp hid
  have hlive := mem_of_loadLiveSegments_outcome hwork p hp
  obtain ⟨hmem, hmerchant⟩ := Store.mem_liveSegments hlive
  rw [hagree.liveSegments_eq] at hlive
  obtain ⟨hotherMem, _⟩ := Store.mem_liveSegments hlive
  have howns := Store.owns_of_mem hkeys hmem
  have hotherOwns := Store.owns_of_mem hotherKeys hotherMem
  rw [hmerchant] at howns hotherOwns
  exact ⟨howns, hotherOwns⟩

/-- Recounts of stores that agree on the merchant find the same and leave the stores alike. -/
theorem recount_withStore (hkeys : s.database.store.WellKeyed .segments)
    (hotherKeys : other.WellKeyed .segments)
    (hagree : s.database.store.AgreeOn s.merchantId other) :
    (s.withStore other).recount.2 = s.recount.2 ∧
      Store.Alike s.merchantId s.database.store other s.recount.1 (s.withStore other).recount.1 := by
  have hclock : (s.withStore other).readClock = s.readClock := rfl
  unfold recount
  dsimp only
  rw [loadLiveSegments_withStore hagree, hclock, store_withStore, merchantId_withStore]
  cases hloaded : (s.loadLiveSegments >>= fun segments =>
      s.readClock >>= fun now => Pure.pure (segments, now)).outcome with
  | error f => exact ⟨rfl, .start hkeys hotherKeys hagree⟩
  | ok found =>
      obtain ⟨work, now⟩ := found
      obtain ⟨segments, hsegments, hread⟩ := Traced.exists_of_outcome_bind hloaded
      obtain ⟨_, _, hfound⟩ := Traced.exists_of_outcome_bind hread
      cases hfound
      have hstart := putsOwn_of_loadLiveSegments hkeys hotherKeys hagree hsegments
      have hbegun : RecountState.Related
          (Store.PutsOwn s.merchantId (work.map (·.1.id)) s.database.store other)
          ⟨s.database.store, s.database.store, false⟩ ⟨other, other, false⟩ :=
        ⟨rfl, hstart, hstart⟩
      have hcount : ∀ p ∈ work, (s.withStore other).countWithin p.1.id (s.predicateOf now p.2) =
          s.countWithin p.1.id (s.predicateOf now p.2) := by
        intro p _
        refine countWithin_withStore ?_ hagree
        rw [predicateOf, Predicate.ofConditions_eq]
      have hmerchant : ∀ p ∈ work, p.1.merchantId = s.merchantId := fun p hp =>
        (Store.mem_liveSegments (mem_of_loadLiveSegments_outcome hsegments p hp)).2
      obtain ⟨hstate, hsame⟩ := recountEach_related (s := s) (t := s.withStore other) now work rfl
        hcount (fun p hp n a b hab => hab.put (List.mem_map_of_mem hp) (hmerchant p hp)) hbegun
      dsimp only
      rw [hsame]
      cases (s.recountEach now ⟨s.database.store, s.database.store, false⟩ work).2.outcome with
      | error f => exact ⟨rfl, hstate.lasting.toAlike⟩
      | ok entries => exact ⟨rfl, hstate.current.toAlike⟩

end Recount

section Perform

variable {s : Session} {other : Store}

/-- One operation on stores that agree on the merchant. -/
theorem perform_withStore (hkeys : s.database.store.WellKeyed .segments)
    (hotherKeys : other.WellKeyed .segments)
    (hagree : s.database.store.AgreeOn s.merchantId other) (op : Operation) :
    ((s.withStore other).perform op).2 = (s.perform op).2 ∧
      Store.Alike s.merchantId s.database.store other (s.perform op).1
        ((s.withStore other).perform op).1 := by
  have hidle := Store.Alike.start hkeys hotherKeys hagree
  cases op with
  | estimate conditions => exact ⟨estimate_withStore hagree conditions, hidle⟩
  | statistics => exact ⟨statistics_withStore hagree, hidle⟩
  | resolveSegment segmentId => exact ⟨resolveSegment_withStore hagree segmentId, hidle⟩
  | resolveAudience segmentIds => exact ⟨resolveUnion_withStore hagree segmentIds, hidle⟩
  | campaignSegmentIds campaignId => exact ⟨targets_withStore hagree campaignId, hidle⟩
  | resolveCampaign campaignId => exact ⟨resolveCampaign_withStore hagree campaignId, hidle⟩
  | recount => exact recount_withStore hkeys hotherKeys hagree

/-- Whoever is in an answer is an active subscriber of the merchant. -/
theorem subset_of_perform_outcome {op : Operation} {a : op.Answer}
    (h : (s.perform op).2.outcome = .ok a) :
    op.subscriberIds a ⊆ (s.database.store.activeSubscribers s.merchantId).map (·.id) ∧
      op.tokens a ⊆ (s.database.store.activeSubscribers s.merchantId).filterMap (·.token) := by
  cases op with
  | resolveSegment segmentId =>
      have hmembers := subset_of_resolveSegment_outcome h
      exact ⟨SegmentAudience.subscriberIds_subset hmembers, SegmentAudience.tokens_subset hmembers⟩
  | resolveAudience segmentIds =>
      have hmembers := subset_of_resolveUnion_outcome h
      exact ⟨Audience.uniqueIds_subset hmembers, Audience.tokens_subset hmembers⟩
  | resolveCampaign campaignId =>
      have hmembers := subset_of_resolveCampaign_outcome h
      exact ⟨Audience.uniqueIds_subset hmembers, Audience.tokens_subset hmembers⟩
  | estimate _ | statistics | campaignSegmentIds _ | recount =>
      exact ⟨List.nil_subset _, List.nil_subset _⟩

/-- Runs operations one after the other, each on the store that the one before has left. -/
def performAll (s : Session) :
    List Operation → Store × List ((op : Operation) × Traced op.Answer)
  | [] => (s.database.store, [])
  | op :: rest =>
      let (after, answer) := s.perform op
      let (final, answers) := (s.withStore after).performAll rest
      (final, ⟨op, answer⟩ :: answers)

/-- All that a session is asked to do from one time to another is answered alike on stores that
agree on its merchant at the beginning. -/
theorem performAll_withStore (hkeys : s.database.store.WellKeyed .segments)
    (hotherKeys : other.WellKeyed .segments)
    (hagree : s.database.store.AgreeOn s.merchantId other) (ops : List Operation) :
    ((s.withStore other).performAll ops).2 = (s.performAll ops).2 ∧
      Store.Alike s.merchantId s.database.store other (s.performAll ops).1
        ((s.withStore other).performAll ops).1 := by
  induction ops generalizing s other with
  | nil => exact ⟨rfl, .start hkeys hotherKeys hagree⟩
  | cons op rest ih =>
      obtain ⟨hanswer, hstep⟩ := perform_withStore hkeys hotherKeys hagree op
      have hrest := @ih (s.withStore (s.perform op).1) ((s.withStore other).perform op).1
        hstep.keys hstep.otherKeys hstep.agree
      obtain ⟨hanswers, hrun⟩ := hrest
      refine ⟨?_, hstep.trans hrun⟩
      simp only [performAll, hanswer]
      exact congrArg _ hanswers

/-- What it is for an operation to be isolated from everything but the rows of its merchant, when
the store could as well be another one that agrees on the merchant. -/
structure Isolated (s : Session) (other : Store) (op : Operation) : Prop where
  /-- The same events and the same result, or the same failure. -/
  answer : ((s.withStore other).perform op).2 = (s.perform op).2
  /-- The stores agree on the merchant afterwards, too. -/
  agree : (s.perform op).1.AgreeOn s.merchantId ((s.withStore other).perform op).1
  subscriberIds : ∀ a, (s.perform op).2.outcome = .ok a →
    op.subscriberIds a ⊆ (s.database.store.activeSubscribers s.merchantId).map (·.id)
  tokens : ∀ a, (s.perform op).2.outcome = .ok a →
    op.tokens a ⊆ (s.database.store.activeSubscribers s.merchantId).filterMap (·.token)
  /-- No row of anybody else changes. -/
  kept : s.database.store.KeepsOthers s.merchantId (s.perform op).1
  keptOther : other.KeepsOthers s.merchantId ((s.withStore other).perform op).1

/-- Every operation of a merchant is isolated from the other merchants, whatever segments and
campaigns it names and whatever is wrong with the store. Stores keep the key of their segments. -/
theorem perform_isolated (s : Session) (other : Store) (op : Operation)
    (hkeys : s.database.store.WellKeyed .segments) (hotherKeys : other.WellKeyed .segments)
    (hagree : s.database.store.AgreeOn s.merchantId other) : s.Isolated other op := by
  obtain ⟨hanswer, hafter⟩ := perform_withStore hkeys hotherKeys hagree op
  exact ⟨hanswer, hafter.agree, fun _ ha => (subset_of_perform_outcome ha).1,
    fun _ ha => (subset_of_perform_outcome ha).2, hafter.kept, hafter.keptOther⟩

end Perform

theorem agreeOn_crowdedStore : Sample.linkedStore.AgreeOn "m1" Sample.crowdedStore where
  merchants := by decide
  subscribers := by decide
  segments := by decide
  rows g hg _ := by
    obtain rfl : g = Sample.segment := by simpa [Sample.linkedStore, Sample.store] using hg
    rfl
  campaigns := by decide
  links c hc _ := rfl

theorem perform_isolated_crowdedStore :
    Sample.linkedStore.WellKeyed .segments ∧ Sample.crowdedStore.WellKeyed .segments ∧
      Sample.linkedStore.AgreeOn "m1" Sample.crowdedStore ∧
      Sample.linkedSession.Isolated Sample.crowdedStore (.resolveCampaign "c1") :=
  ⟨by decide, by decide, agreeOn_crowdedStore,
    perform_isolated Sample.linkedSession Sample.crowdedStore (.resolveCampaign "c1") (by decide)
      (by decide) agreeOn_crowdedStore⟩

end Session

end Targeting
