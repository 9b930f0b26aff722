import Mathlib.Algebra.Ring.Nat
import Targeting.Proofs.Outage

/-!
What a union comes to. Its ids are those that the active segments of the request resolve to, each
once, in the order in which they are first seen when the segments are gone through as requested.
From this follows what does not matter: a segment that is named again, and one that adds nobody.
-/

namespace Targeting

attribute [local irreducible] Condition.formula

namespace Session

/-- The ids that a segment resolves to on its own: none unless it resolves and is active. -/
def idsAlone (s : Session) (segmentId : String) : List String :=
  match (s.resolveSegment segmentId).outcome with
  | .ok a => if a.isActive then a.subscriberIds else []
  | .error _ => []

/-- Nobody comes from a segment that is not there, is not active or fails. -/
def AddsNobody (s : Session) (segmentId : String) : Prop :=
  ∀ a, (s.resolveSegment segmentId).outcome = .ok a → a.isActive = false

section Parts

variable (s : Session) (segmentId : String)

theorem mem_idsAlone_iff {id : String} : id ∈ s.idsAlone segmentId ↔
    ∃ a, (s.resolveSegment segmentId).outcome = .ok a ∧ a.isActive = true ∧
      id ∈ a.subscriberIds := by
  unfold idsAlone
  cases (s.resolveSegment segmentId).outcome with
  | error f => simp
  | ok a => cases hactive : a.isActive <;> simp [hactive]

/-- An inactive segment has no members, so that every entry holds what its segment alone comes
to. -/
theorem ids_entry : (s.entry segmentId).members.map (·.id) = s.idsAlone segmentId := by
  cases s.ending segmentId with
  | missing h hout => simp only [entry, UnionEntry.members, idsAlone, hout, List.map_nil]
  | inactive g h hactive hout =>
      simp only [entry, UnionEntry.members, idsAlone, hout, List.map_nil, Bool.false_eq_true,
        if_false]
  | resolved g h hactive a ha hout =>
      simp only [entry, UnionEntry.members, idsAlone, hout, ha, if_true]
      rfl
  | broken f hf hout => simp only [entry, UnionEntry.members, idsAlone, hout, List.map_nil]

variable {s segmentId}

theorem members_entry_of_addsNobody (h : s.AddsNobody segmentId) :
    (s.entry segmentId).members = [] := by
  have hids : s.idsAlone segmentId = [] := by
    rw [List.eq_nil_iff_forall_not_mem]
    intro id hid
    obtain ⟨a, hout, hactive, -⟩ := s.mem_idsAlone_iff segmentId |>.mp hid
    rw [h a hout] at hactive
    cases hactive
  rwa [← ids_entry, List.map_eq_nil_iff] at hids

theorem tokens_entry_of_addsNobody (h : s.AddsNobody segmentId) :
    (s.entry segmentId).tokens = [] := by
  have hmembers := members_entry_of_addsNobody h
  cases hout : (s.resolveSegment segmentId).outcome with
  | error f => simp only [entry, UnionEntry.tokens, hout]
  | ok a =>
      simp only [entry, UnionEntry.members, hout] at hmembers
      simp only [entry, UnionEntry.tokens, hout, SegmentAudience.tokens, hmembers,
        List.filterMap_nil]

end Parts

section Union

variable {s : Session} {segmentIds : List String}

/-- A union that comes to an audience has resolved every position, whatever the limit. -/
theorem eq_resolveEach_of_outcome {a : Audience}
    (h : (s.resolveUnion segmentIds).outcome = .ok a) : a = s.resolveEach segmentIds := by
  cases segmentIds with
  | nil =>
      cases h
      rfl
  | cons id rest =>
      unfold resolveUnion at h
      rw [if_neg (by simp)] at h
      split at h
      · cases h
      · dsimp only at h
        split at h
        · cases h
        · exact (Except.ok.inj h).symm

theorem ids_contributions (s : Session) (segmentIds : List String) :
    (s.resolveEach segmentIds).contributions.map (·.id) = segmentIds.flatMap s.idsAlone := by
  rw [Audience.contributions, List.map_flatMap, resolveEach, List.flatMap_map]
  exact List.flatMap_congr fun id _ => s.ids_entry id

/-- A position that adds nothing new changes neither the ids nor the tokens of a union. -/
theorem resolveEach_insert {before : List String} {id : String}
    (h : id ∈ before ∨ s.AddsNobody id) (after : List String) :
    (s.resolveEach (before ++ id :: after)).uniqueIds =
        (s.resolveEach (before ++ after)).uniqueIds ∧
      (s.resolveEach (before ++ id :: after)).tokens =
        (s.resolveEach (before ++ after)).tokens := by
  have hids : s.idsAlone id ⊆ before.flatMap s.idsAlone := by
    rcases h with hmem | hnobody
    · exact fun u hu => List.mem_flatMap.mpr ⟨id, hmem, hu⟩
    · rw [← ids_entry, members_entry_of_addsNobody hnobody]
      exact List.nil_subset _
  have htokens : (s.entry id).tokens ⊆ before.flatMap fun id => (s.entry id).tokens := by
    rcases h with hmem | hnobody
    · exact fun t ht => List.mem_flatMap.mpr ⟨id, hmem, ht⟩
    · rw [tokens_entry_of_addsNobody hnobody]
      exact List.nil_subset _
  constructor
  · simp only [Audience.uniqueIds, ids_contributions]
    exact distinct_flatMap_insert hids after
  · simp only [Audience.tokens, resolveEach, List.flatMap_map]
    exact distinct_flatMap_insert htokens after

/-- What a union is of the segments of a request. -/
structure IsUnion (s : Session) (segmentIds : List String) (a : Audience) : Prop where
  /-- There is one entry a position, in the order of the request. -/
  positions : a.entries.map (·.segmentId) = segmentIds
  /-- The ids are those of the subscribers that the active segments resolve to. -/
  mem_iff : ∀ u, u ∈ a.uniqueIds ↔ ∃ id ∈ segmentIds, ∃ b,
    (s.resolveSegment id).outcome = .ok b ∧ b.isActive = true ∧ u ∈ b.subscriberIds
  /-- They come as they are first seen where the segments stand one after the other. -/
  firstSeen : FirstSeen a.uniqueIds (segmentIds.flatMap s.idsAlone)
  /-- Before they are made distinct there are as many as the entries have together. -/
  total : a.totalRawCount = (segmentIds.flatMap s.idsAlone).length
  sum : a.totalRawCount = (a.entries.map fun e => e.members.length).sum
  unique_le : a.uniqueIds.length ≤ a.totalRawCount

theorem isUnion_resolveEach (s : Session) (segmentIds : List String) :
    s.IsUnion segmentIds (s.resolveEach segmentIds) := by
  have hids : (s.resolveEach segmentIds).uniqueIds =
      distinct (segmentIds.flatMap s.idsAlone) := by
    rw [Audience.uniqueIds, ids_contributions]
  have htotal : (s.resolveEach segmentIds).totalRawCount =
      (segmentIds.flatMap s.idsAlone).length := by
    rw [← ids_contributions, List.length_map, Audience.totalRawCount]
  exact {
    positions := by
      rw [resolveEach, List.map_map]
      exact List.map_id _
    mem_iff := by
      intro u
      simp only [hids, mem_distinct, List.mem_flatMap, mem_idsAlone_iff]
    firstSeen := by
      rw [hids]
      exact firstSeen_distinct _
    total := htotal
    sum := List.length_flatMap
    unique_le := by
      rw [hids, htotal]
      exact length_distinct_le _ }

structure MergesInOrder (s : Session) : Prop where
  union : ∀ segmentIds a, (s.resolveUnion segmentIds).outcome = .ok a → s.IsUnion segmentIds a
  /-- To name a segment again changes nobody, and neither does a segment that adds nobody. -/
  insert : ∀ before after id, id ∈ before ∨ s.AddsNobody id →
    ∀ a b, (s.resolveUnion (before ++ after)).outcome = .ok a →
      (s.resolveUnion (before ++ id :: after)).outcome = .ok b →
        b.uniqueIds = a.uniqueIds ∧ b.tokens = a.tokens
  /-- Nothing is asked for, and nobody is found. -/
  nothing : ∃ a, (s.resolveUnion []).outcome = .ok a ∧
    a.entries = [] ∧ a.uniqueIds = [] ∧ a.tokens = [] ∧ a.totalRawCount = 0

/-- Unions put segments together in the order in which they are requested, whatever breaks down on
the way. -/
theorem resolveUnion_merges_in_order (s : Session) : s.MergesInOrder where
  union segmentIds a h := by
    rw [eq_resolveEach_of_outcome h]
    exact s.isUnion_resolveEach segmentIds
  insert before after id hid a b ha hb := by
    rw [eq_resolveEach_of_outcome ha, eq_resolveEach_of_outcome hb]
    exact resolveEach_insert hid after
  nothing := ⟨⟨[]⟩, rfl, rfl, rfl, rfl, rfl⟩

example : ((Sample.failingSession.resolveUnion ["s4", "s9", "s1", "s2", "s1"]).outcome.toOption.map
    fun a => (a.uniqueIds, a.totalRawCount)) = some (["u1"], 2) := by decide +kernel

end Union

end Session

end Targeting
