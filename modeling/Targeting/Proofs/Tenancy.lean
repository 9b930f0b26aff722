import Targeting.Audience.Campaign
import Targeting.Audience.Statistics
import Targeting.Proofs.Agreement
import Targeting.Proofs.Answers

/-!
What a session asks of the store is about its merchant alone. On a store that agrees on the merchant
every query comes to the same, with the same events, and whoever is found is an active subscriber of
the merchant. The rows of a segment and the links of a campaign do not name a merchant: they are
asked for only once their segment or campaign has been found to be the merchant's.
-/

namespace Targeting

attribute [local irreducible] Condition.formula

theorem nonEmpty?_eq_some {text : Option String} {t : String} (h : nonEmpty? text = some t) :
    text = some t := by
  unfold nonEmpty? at h
  split at h <;> simp_all

namespace SegmentAudience

variable {a : SegmentAudience} {subscribers : List Subscriber}

theorem subscriberIds_subset (h : a.members ⊆ subscribers) :
    a.subscriberIds ⊆ subscribers.map (·.id) := List.map_subset _ h

theorem tokens_subset (h : a.members ⊆ subscribers) :
    a.tokens ⊆ subscribers.filterMap (·.token) := by
  intro token htoken
  obtain ⟨u, hu, hof⟩ := List.mem_filterMap.mp htoken
  exact List.mem_filterMap.mpr ⟨u, h hu, nonEmpty?_eq_some hof⟩

end SegmentAudience

namespace Audience

variable {a : Audience} {subscribers : List Subscriber}

theorem uniqueIds_subset (h : a.contributions ⊆ subscribers) :
    a.uniqueIds ⊆ subscribers.map (·.id) := by
  intro id hid
  rw [uniqueIds, mem_distinct] at hid
  exact List.map_subset _ h hid

theorem tokens_subset (h : a.contributions ⊆ subscribers) :
    a.tokens ⊆ subscribers.filterMap (·.token) := by
  intro token htoken
  rw [tokens, mem_distinct] at htoken
  obtain ⟨e, he, hof⟩ := List.mem_flatMap.mp htoken
  cases houtcome : e.outcome with
  | error f => simp [UnionEntry.tokens, houtcome] at hof
  | ok b =>
      have hmembers : b.members ⊆ subscribers := by
        intro u hu
        refine h (List.mem_flatMap.mpr ⟨e, he, ?_⟩)
        simpa [UnionEntry.members, houtcome] using hu
      refine SegmentAudience.tokens_subset hmembers ?_
      simpa [UnionEntry.tokens, houtcome] using hof

end Audience

namespace Session

/-- The session with other rows in its store. What is wrong with the store stays wrong with it. -/
def withStore (s : Session) (store : Store) : Session :=
  { s with database := { s.database with store := store } }

@[simp] theorem merchantId_withStore (s : Session) (store : Store) :
    (s.withStore store).merchantId = s.merchantId := rfl

@[simp] theorem store_withStore (s : Session) (store : Store) :
    (s.withStore store).database.store = store := rfl

section Queries

variable {s : Session} {other : Store}

theorem ask_withStore {α : Type} (s : Session) (other : Store) (q : Query) (answer : Store → α)
    (h : answer s.database.store = answer other) :
    (s.withStore other).ask q answer = s.ask q answer := by
  have hbreakdown : (s.withStore other).database.breakdown? q = s.database.breakdown? q := rfl
  unfold ask
  rw [hbreakdown]
  cases s.database.breakdown? q with
  | none =>
      dsimp only
      rw [h]
      rfl
  | some b => cases b <;> rfl

theorem askRows_withStore {α : Type} (s : Session) (other : Store) (operation : String)
    (segments : List Segment) (a : α) :
    (s.withStore other).askRows operation segments a = s.askRows operation segments a := by
  have hbreakdown : (s.withStore other).database.rowsBreakdown? = s.database.rowsBreakdown? := rfl
  unfold askRows
  rw [hbreakdown]
  cases s.database.rowsBreakdown? with
  | none => rfl
  | some b => cases b <;> rfl

/-- Without segments there are no rows to load. -/
theorem askRows_nil {α : Type} (s : Session) (operation : String) (a : α) :
    s.askRows operation [] a = .pure a := by
  unfold askRows
  cases s.database.rowsBreakdown? <;> rfl

theorem predicate_withStore (s : Session) (other : Store) (conditions : List Condition) :
    (s.withStore other).predicate conditions = s.predicate conditions := rfl

theorem merchantId_of_predicate_outcome {conditions : List Condition} {p : Predicate}
    (h : (s.predicate conditions).outcome = .ok p) : p.merchantId = s.merchantId := by
  unfold predicate at h
  split at h
  · cases h
    rfl
  · obtain ⟨now, _, hp⟩ := Traced.exists_of_outcome_bind h
    cases hp
    rw [Predicate.ofConditions_eq]

theorem count_withStore {p : Predicate} (hp : p.merchantId = s.merchantId)
    (hagree : s.database.store.AgreeOn s.merchantId other) :
    (s.withStore other).count p = s.count p := by
  rw [← hp] at hagree
  exact s.ask_withStore other _ _ hagree.countOf_eq

theorem countWithin_withStore {segmentId : String} {p : Predicate}
    (hp : p.merchantId = s.merchantId) (hagree : s.database.store.AgreeOn s.merchantId other) :
    (s.withStore other).countWithin segmentId p = s.countWithin segmentId p := by
  rw [← hp] at hagree
  exact s.ask_withStore other _ _ hagree.countOf_eq

theorem fetch_withStore {p : Predicate} (hp : p.merchantId = s.merchantId)
    (hagree : s.database.store.AgreeOn s.merchantId other) :
    (s.withStore other).fetch p = s.fetch p := by
  rw [← hp] at hagree
  exact s.ask_withStore other _ _ hagree.selected_eq

theorem subset_of_fetch_outcome {p : Predicate} {members : List Subscriber}
    (hp : p.merchantId = s.merchantId) (h : (s.fetch p).outcome = .ok members) :
    members ⊆ s.database.store.activeSubscribers s.merchantId := by
  intro u hu
  rw [eq_of_ask_outcome h] at hu
  rw [← hp]
  exact Store.mem_selected hu

end Queries

section Totals

variable {s : Session} {other : Store} (hagree : s.database.store.AgreeOn s.merchantId other)
include hagree

theorem estimate_withStore (conditions : List Condition) :
    (s.withStore other).estimate conditions = s.estimate conditions := by
  unfold estimate
  rw [predicate_withStore]
  refine Traced.bind_congr fun p hp => ?_
  have hcount := count_withStore (merchantId_of_predicate_outcome hp) hagree
  refine Traced.bind_congr fun _ _ => ?_
  rw [estimatePredicate, estimatePredicate, hcount]

theorem statistics_withStore : (s.withStore other).statistics = s.statistics := by
  have htotal := s.ask_withStore other (.segmentCount s.merchantId)
    (fun store => (store.segmentsOf s.merchantId).length) (by rw [hagree.segmentsOf_eq])
  have hactive := s.ask_withStore other (.segmentCount s.merchantId)
    (fun store => ((store.segmentsOf s.merchantId).filter (·.isActive)).length)
    (by rw [hagree.segmentsOf_eq])
  have hsubscribers := s.ask_withStore other (.subscriberCount s.merchantId)
    (fun store => (store.activeSubscribers s.merchantId).length)
    (by rw [hagree.activeSubscribers_eq])
  unfold statistics
  rw [merchantId_withStore, htotal, hactive, hsubscribers]

end Totals

section Resolution

variable {s : Session} {other : Store}

/-- What is loaded for the id of another merchant's segment is that there is none. -/
theorem loadSegment_withStore (hagree : s.database.store.AgreeOn s.merchantId other)
    (segmentId : String) :
    (s.withStore other).loadSegment segmentId = s.loadSegment segmentId := by
  have hfound := s.ask_withStore other (.segmentById segmentId s.merchantId)
    (fun store => store.segment? s.merchantId segmentId) (hagree.segment?_eq segmentId)
  unfold loadSegment
  dsimp only
  rw [merchantId_withStore, store_withStore, hfound]
  refine Traced.bind_congr fun found hanswer => ?_
  refine Traced.bind_congr fun _ _ => ?_
  rw [askRows_withStore]
  cases found with
  | none =>
      change (s.askRows _ [] _ >>= fun _ => _) = s.askRows _ [] _ >>= fun _ => _
      rw [askRows_nil, askRows_nil]
      rfl
  | some g =>
      have hsome := (eq_of_ask_outcome hanswer).symm
      obtain ⟨hmem, hid, hmerchant⟩ := Store.segment?_eq_some hsome
      have hrows := hagree.rowsOf_eq hmem hmerchant
      rw [hid] at hrows
      rw [hrows]

theorem resolveSegment_withStore (hagree : s.database.store.AgreeOn s.merchantId other)
    (segmentId : String) :
    (s.withStore other).resolveSegment segmentId = s.resolveSegment segmentId := by
  unfold resolveSegment
  rw [loadSegment_withStore hagree]
  refine Traced.bind_congr fun ⟨g, rows⟩ _ => ?_
  dsimp only
  split
  · refine Traced.bind_congr fun _ _ => ?_
    rw [predicate_withStore]
    refine Traced.bind_congr fun p hp => ?_
    refine Traced.bind_congr fun _ _ => ?_
    rw [fetch_withStore (merchantId_of_predicate_outcome hp) hagree]
  · rfl

theorem subset_of_resolveSegment_outcome {segmentId : String} {a : SegmentAudience}
    (h : (s.resolveSegment segmentId).outcome = .ok a) :
    a.members ⊆ s.database.store.activeSubscribers s.merchantId := by
  unfold resolveSegment at h
  obtain ⟨⟨g, rows⟩, _, hloaded⟩ := Traced.exists_of_outcome_bind h
  dsimp only at hloaded
  split at hloaded
  · obtain ⟨_, _, htold⟩ := Traced.exists_of_outcome_bind hloaded
    obtain ⟨p, hp, hassembled⟩ := Traced.exists_of_outcome_bind htold
    obtain ⟨_, _, hskipped⟩ := Traced.exists_of_outcome_bind hassembled
    obtain ⟨members, hmembers, hfetched⟩ := Traced.exists_of_outcome_bind hskipped
    cases hfetched
    exact subset_of_fetch_outcome (merchantId_of_predicate_outcome hp) hmembers
  · cases hloaded
    simp

theorem resolveUnion_withStore (hagree : s.database.store.AgreeOn s.merchantId other)
    (segmentIds : List String) :
    (s.withStore other).resolveUnion segmentIds = s.resolveUnion segmentIds := by
  have hconcurrency : (s.withStore other).concurrency = s.concurrency := rfl
  unfold resolveUnion resolveEach
  simp only [resolveSegment_withStore hagree, hconcurrency]

/-- Whoever a union takes in has been found by the resolution of one of its segments. -/
theorem subset_of_resolveUnion_outcome {segmentIds : List String} {a : Audience}
    (h : (s.resolveUnion segmentIds).outcome = .ok a) :
    a.contributions ⊆ s.database.store.activeSubscribers s.merchantId := by
  have hentries : ∀ e ∈ a.entries, ∃ id, e.outcome = (s.resolveSegment id).outcome := by
    unfold resolveUnion at h
    split at h
    · cases h
      simp
    · split at h
      · cases h
      · dsimp only at h
        split at h
        · cases h
        · cases h
          intro e he
          obtain ⟨id, _, rfl⟩ := List.mem_map.mp he
          exact ⟨id, rfl⟩
  intro u hu
  obtain ⟨e, he, hmember⟩ := List.mem_flatMap.mp hu
  obtain ⟨id, hid⟩ := hentries e he
  cases he' : e.outcome with
  | error f => simp [UnionEntry.members, he'] at hmember
  | ok b =>
      rw [he'] at hid
      refine subset_of_resolveSegment_outcome hid.symm ?_
      simpa [UnionEntry.members, he'] using hmember

/-- The links of a campaign are followed only for a campaign of the merchant. -/
theorem targets_withStore (hagree : s.database.store.AgreeOn s.merchantId other)
    (campaignId : String) : (s.withStore other).targets campaignId = s.targets campaignId := by
  have hfound := s.ask_withStore other (.campaignById campaignId s.merchantId)
    (fun store => store.campaign? s.merchantId campaignId) (hagree.campaign?_eq campaignId)
  unfold targets
  rw [merchantId_withStore, hfound]
  refine Traced.bind_congr fun found hanswer => ?_
  cases found with
  | none => rfl
  | some c =>
      have hsome := (eq_of_ask_outcome hanswer).symm
      obtain ⟨hmem, hid, hmerchant⟩ := Store.campaign?_eq_some hsome
      have hlinks := hagree.linksOf_eq hmem hmerchant
      rw [hid] at hlinks
      exact s.ask_withStore other _ _ (by rw [hlinks])

theorem resolveCampaign_withStore (hagree : s.database.store.AgreeOn s.merchantId other)
    (campaignId : String) :
    (s.withStore other).resolveCampaign campaignId = s.resolveCampaign campaignId := by
  unfold resolveCampaign
  rw [targets_withStore hagree]
  exact Traced.bind_congr fun segmentIds _ => resolveUnion_withStore hagree segmentIds

theorem subset_of_resolveCampaign_outcome {campaignId : String} {a : Audience}
    (h : (s.resolveCampaign campaignId).outcome = .ok a) :
    a.contributions ⊆ s.database.store.activeSubscribers s.merchantId := by
  obtain ⟨segmentIds, _, hunion⟩ := Traced.exists_of_outcome_bind h
  exact subset_of_resolveUnion_outcome hunion

end Resolution

end Session

end Targeting
