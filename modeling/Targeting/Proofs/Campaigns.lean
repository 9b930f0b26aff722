import Targeting.Proofs.LinkOrder
import Targeting.Proofs.Merging
import Targeting.Proofs.Readiness
import Targeting.Proofs.Resolving

/-!
Campaigns while nothing is wrong. A campaign that the merchant has is followed link by link, in
order, wherever its links lead; what it reaches is the union of the segments that they name. A link
that leads nowhere shows in the breakdown and brings nobody, and the order of the links decides the
order of the recipients alone.
-/

namespace Targeting

open Text

attribute [local irreducible] Condition.formula

namespace Store

/-- The links in a store as their columns take them: no position is NaN, and the ids of segments
have bytes. -/
structure KeepsLinks (store : Store) : Prop where
  positions : ∀ l ∈ store.links, l.position ≠ .real .nan
  ids : ∀ l ∈ store.links, isEncodable l.segmentId = true

/-- The merchant has a campaign with the id, and it is not deleted. -/
def HasCampaign (store : Store) (merchantId id : String) : Prop :=
  ∃ c ∈ store.campaigns, c.id = id ∧ c.merchantId = merchantId ∧ c.deletedAt = none

/-- The merchant has a segment with the id that is not deleted and is as active as told. -/
def HasSegment (store : Store) (merchantId id : String) (active : Bool) : Prop :=
  ∃ g ∈ store.segments,
    g.id = id ∧ g.merchantId = merchantId ∧ g.deletedAt = none ∧ g.isActive = active

theorem campaign?_eq_none_iff {store : Store} {merchantId id : String} :
    store.campaign? merchantId id = none ↔ ¬ store.HasCampaign merchantId id := by
  simp [campaign?, HasCampaign, List.find?_eq_none]

theorem encodable_linksOf {store : Store} {campaignId : String}
    (h : ∀ l ∈ store.links, l.campaignId = campaignId → isEncodable l.segmentId = true) :
    ∀ id ∈ (store.linksOf campaignId).map (·.segmentId), isEncodable id = true := by
  intro id hid
  obtain ⟨l, hl, rfl⟩ := List.mem_map.mp hid
  have hlink := List.mem_filter.mp ((perm_linksOf _ _).mem_iff.mp hl)
  apply h l hlink.1
  simpa using hlink.2

theorem linksOf_of_unlinked {store : Store} {campaignId : String}
    (h : ∀ l ∈ store.links, l.campaignId ≠ campaignId) : store.linksOf campaignId = [] := by
  have hfilter : store.links.filter (·.campaignId == campaignId) = [] := by
    rw [List.filter_eq_nil_iff]
    intro l hl
    simpa using h l hl
  rw [linksOf, hfilter, List.mergeSort_nil]

end Store

namespace Session

variable {s : Session} {now : Moment} {campaignId : String}

section Perm

variable {ids others : List String}

theorem mem_uniqueIds_of_perm (h : ids.Perm others) (u : String) :
    u ∈ (s.resolveEach ids).uniqueIds ↔ u ∈ (s.resolveEach others).uniqueIds := by
  rw [(s.isUnion_resolveEach ids).mem_iff, (s.isUnion_resolveEach others).mem_iff]
  constructor
  · rintro ⟨id, hid, hresolved⟩
    exact ⟨id, h.mem_iff.mp hid, hresolved⟩
  · rintro ⟨id, hid, hresolved⟩
    exact ⟨id, h.mem_iff.mpr hid, hresolved⟩

theorem mem_tokens_of_perm (h : ids.Perm others) (token : String) :
    token ∈ (s.resolveEach ids).tokens ↔ token ∈ (s.resolveEach others).tokens := by
  have htokens : ∀ segmentIds, token ∈ (s.resolveEach segmentIds).tokens ↔
      ∃ id ∈ segmentIds, token ∈ (s.entry id).tokens := by
    intro segmentIds
    rw [Audience.tokens, mem_distinct, resolveEach, List.flatMap_map, List.mem_flatMap]
    rfl
  rw [htokens, htokens]
  constructor
  · rintro ⟨id, hid, hmem⟩
    exact ⟨id, h.mem_iff.mp hid, hmem⟩
  · rintro ⟨id, hid, hmem⟩
    exact ⟨id, h.mem_iff.mpr hid, hmem⟩

end Perm

/-- The session with other links in its store. -/
def withLinks (s : Session) (links : List CampaignLink) : Session :=
  s.withStore { s.database.store with links := links }

theorem resolveEach_withLinks (s : Session) (links : List CampaignLink) (ids : List String) :
    (s.withLinks links).resolveEach ids = s.resolveEach ids := rfl

/-- The entries of an audience stand for the segments that were asked for, and those that cannot be
used are told by their status and bring nobody. -/
structure LaysOut (s : Session) (ids : List String) (a : Audience) : Prop where
  positions : a.entries.map (·.segmentId) = ids
  unusable : ∀ e ∈ a.entries, ¬ s.database.store.HasSegment s.merchantId e.segmentId true →
    e.members = [] ∧ e.tokens = [] ∧
      (s.database.store.HasSegment s.merchantId e.segmentId false ∧ e.status = .inactive ∨
        ¬ s.database.store.HasSegment s.merchantId e.segmentId false ∧ e.status = .notFound)

namespace IsReady

variable (h : s.IsReady now)
include h

theorem withLinks (links : List CampaignLink) : (s.withLinks links).IsReady now where
  restored := by
    have hdatabase := h.restored
    simp only [Session.withLinks, withStore, Database.restored] at hdatabase ⊢
    rw [hdatabase]
  clock := h.clock
  merchant := h.merchant
  store := {
    names := ⟨h.store.names.keys, h.store.names.bytes⟩
    kinds := h.store.kinds
    rows := h.store.rows }

theorem campaign_answered (hid : isEncodable campaignId = true) :
    s.database.breakdown? (.campaignById campaignId s.merchantId) = none := by
  apply h.breakdown?_eq_none
  intro text htext
  rcases List.mem_cons.mp htext with rfl | hlast
  · exact hid
  · rw [List.mem_singleton.mp hlast]
    exact h.merchant

theorem targets_of_missing (hid : isEncodable campaignId = true)
    (hnone : ¬ s.database.store.HasCampaign s.merchantId campaignId) :
    (s.targets campaignId).outcome = .error (.campaignNotFound campaignId) := by
  have hasked := ask_outcome (h.campaign_answered hid) fun store =>
    store.campaign? s.merchantId campaignId
  rw [Store.campaign?_eq_none_iff.mpr hnone] at hasked
  unfold targets
  rw [Traced.outcome_bind_of_ok hasked]
  rfl

theorem targets_of_hasCampaign (hid : isEncodable campaignId = true)
    (hhas : s.database.store.HasCampaign s.merchantId campaignId) :
    (s.targets campaignId).outcome =
      .ok ((s.database.store.linksOf campaignId).map (·.segmentId)) := by
  have hlinks : s.database.breakdown? (.linksOf campaignId) = none := by
    apply h.breakdown?_eq_none
    intro text htext
    rw [List.mem_singleton.mp htext]
    exact hid
  have hasked := ask_outcome (h.campaign_answered hid) fun store =>
    store.campaign? s.merchantId campaignId
  cases hfound : s.database.store.campaign? s.merchantId campaignId with
  | none => exact absurd hhas (Store.campaign?_eq_none_iff.mp hfound)
  | some c =>
      rw [hfound] at hasked
      unfold targets
      rw [Traced.outcome_bind_of_ok hasked]
      exact ask_outcome hlinks _

theorem targets_notFound_iff (hid : isEncodable campaignId = true) :
    (s.targets campaignId).outcome = .error (.campaignNotFound campaignId) ↔
      ¬ s.database.store.HasCampaign s.merchantId campaignId := by
  constructor
  · intro hmissing hhas
    rw [h.targets_of_hasCampaign hid hhas] at hmissing
    cases hmissing
  · exact h.targets_of_missing hid

/-- The segments of a campaign are in the union that its audience is. -/
theorem resolveCampaign_outcome (hlimit : limitFailure? s.concurrency = none)
    (hid : isEncodable campaignId = true)
    (hids : ∀ l ∈ s.database.store.links, l.campaignId = campaignId →
      isEncodable l.segmentId = true)
    (hhas : s.database.store.HasCampaign s.merchantId campaignId) :
    (s.resolveCampaign campaignId).outcome =
      .ok (s.resolveEach ((s.database.store.linksOf campaignId).map (·.segmentId))) := by
  unfold resolveCampaign
  rw [Traced.outcome_bind_of_ok (h.targets_of_hasCampaign hid hhas)]
  exact h.resolveUnion_outcome hlimit (Store.encodable_linksOf hids)

theorem resolveCampaign_of_missing (hid : isEncodable campaignId = true)
    (hnone : ¬ s.database.store.HasCampaign s.merchantId campaignId) :
    (s.resolveCampaign campaignId).outcome = .error (.campaignNotFound campaignId) :=
  Traced.outcome_bind_of_error (h.targets_of_missing hid hnone) _

/-- A segment that is not there, is another merchant's, is deleted or is inactive brings nobody. -/
theorem unusable_entry {id : String} (hid : isEncodable id = true)
    (hunusable : ¬ s.database.store.HasSegment s.merchantId id true) :
    (s.entry id).members = [] ∧ (s.entry id).tokens = [] ∧
      (s.database.store.HasSegment s.merchantId id false ∧ (s.entry id).status = .inactive ∨
        ¬ s.database.store.HasSegment s.merchantId id false ∧
          (s.entry id).status = .notFound) := by
  rcases h.finds_or_misses hid with ⟨g, hfinds⟩ | hmisses
  · obtain ⟨hmem, hgid, hmerchant⟩ := Store.segment?_eq_some hfinds.live
    have hdeleted : g.deletedAt = none := by
      have hmatch := List.find?_some hfinds.live
      simp only [Bool.and_eq_true, Option.isNone_iff_eq_none] at hmatch
      exact hmatch.2
    have hinactive : g.isActive = false := by
      rw [← Bool.not_eq_true]
      intro hactive
      exact hunusable ⟨g, hmem, hgid, hmerchant, hdeleted, hactive⟩
    have hnobody : s.AddsNobody id := by
      intro a ha
      rw [hfinds.resolveSegment_outcome_of_inactive hinactive] at ha
      cases ha
      rfl
    exact ⟨members_entry_of_addsNobody hnobody, tokens_entry_of_addsNobody hnobody,
      .inl ⟨⟨g, hmem, hgid, hmerchant, hdeleted, hinactive⟩,
        s.status_entry_of_inactive id hfinds hinactive⟩⟩
  · have habsent : ¬ s.database.store.HasSegment s.merchantId id false := by
      rintro ⟨g, hmem, hgid, hmerchant, hdeleted, -⟩
      exact Store.segment?_eq_none_iff.mp hmisses.absent ⟨g, hmem, hgid, hmerchant, hdeleted⟩
    have hnobody : s.AddsNobody id := by
      intro a ha
      rw [hmisses.resolveSegment_outcome] at ha
      cases ha
    exact ⟨members_entry_of_addsNobody hnobody, tokens_entry_of_addsNobody hnobody,
      .inr ⟨habsent, s.status_entry_of_misses id hmisses⟩⟩

theorem laysOut_resolveEach {ids : List String} (hids : ∀ id ∈ ids, isEncodable id = true) :
    s.LaysOut ids (s.resolveEach ids) where
  positions := (s.isUnion_resolveEach ids).positions
  unusable := by
    intro e he hunusable
    obtain ⟨id, hid, rfl⟩ := List.mem_map.mp he
    exact h.unusable_entry (hids id hid) hunusable

end IsReady

/-- What it is for the audience of a campaign to follow its links. -/
structure FollowsLinks (s : Session) (campaignId : String) : Prop where
  notFound : (s.targets campaignId).outcome = .error (.campaignNotFound campaignId) ↔
    ¬ s.database.store.HasCampaign s.merchantId campaignId
  /-- Then there is no audience either. -/
  unresolved : ¬ s.database.store.HasCampaign s.merchantId campaignId →
    (s.resolveCampaign campaignId).outcome = .error (.campaignNotFound campaignId)
  /-- Each link is followed once, by position and age, and wherever it leads. -/
  listed : s.database.store.HasCampaign s.merchantId campaignId →
    ∃ links : List CampaignLink,
      links.Perm (s.database.store.links.filter (·.campaignId == campaignId)) ∧
        (links.Pairwise fun a b => a.rank ≤ b.rank) ∧
          (s.targets campaignId).outcome = .ok (links.map (·.segmentId))
  union : ∀ ids, (s.targets campaignId).outcome = .ok ids →
    (s.resolveCampaign campaignId).outcome = (s.resolveUnion ids).outcome ∧
      ∃ a, (s.resolveUnion ids).outcome = .ok a ∧ s.LaysOut ids a
  unlinked : s.database.store.HasCampaign s.merchantId campaignId →
    (∀ l ∈ s.database.store.links, l.campaignId ≠ campaignId) →
      ∃ a, (s.resolveCampaign campaignId).outcome = .ok a ∧ a.uniqueIds = [] ∧ a.tokens = []
  /-- Other positions of the same links change nobody. -/
  reordered : ∀ others : List CampaignLink,
    ((others.filter (·.campaignId == campaignId)).map (·.segmentId)).Perm
        ((s.database.store.links.filter (·.campaignId == campaignId)).map (·.segmentId)) →
      ∀ a, (s.resolveCampaign campaignId).outcome = .ok a →
        ∃ b, ((s.withLinks others).resolveCampaign campaignId).outcome = .ok b ∧
          (∀ u, u ∈ b.uniqueIds ↔ u ∈ a.uniqueIds) ∧ ∀ token, token ∈ b.tokens ↔ token ∈ a.tokens

theorem IsReady.resolveCampaign_reordered (h : s.IsReady now)
    (hlinks : s.database.store.KeepsLinks) (hlimit : limitFailure? s.concurrency = none)
    (hid : isEncodable campaignId = true) {others : List CampaignLink}
    (hperm : ((others.filter (·.campaignId == campaignId)).map (·.segmentId)).Perm
      ((s.database.store.links.filter (·.campaignId == campaignId)).map (·.segmentId)))
    (hhas : s.database.store.HasCampaign s.merchantId campaignId) :
    ∃ ids, ids.Perm ((s.database.store.linksOf campaignId).map (·.segmentId)) ∧
      ((s.withLinks others).resolveCampaign campaignId).outcome = .ok (s.resolveEach ids) := by
  have hids : ∀ l ∈ others, l.campaignId = campaignId → isEncodable l.segmentId = true := by
    intro l hl hof
    have hmem : l.segmentId ∈ (others.filter (·.campaignId == campaignId)).map (·.segmentId) :=
      List.mem_map_of_mem (List.mem_filter.mpr ⟨hl, by simpa using hof⟩)
    obtain ⟨old, hold, hsame⟩ := List.mem_map.mp (hperm.mem_iff.mp hmem)
    rw [← hsame]
    exact hlinks.ids old (List.mem_filter.mp hold).1
  have hout := (h.withLinks others).resolveCampaign_outcome hlimit hid hids hhas
  rw [resolveEach_withLinks] at hout
  refine ⟨_, ?_, hout⟩
  calc ((s.withLinks others).database.store.linksOf campaignId).map (·.segmentId)
      |>.Perm ((others.filter (·.campaignId == campaignId)).map (·.segmentId)) :=
        (Store.perm_linksOf _ _).map _
    _ |>.Perm ((s.database.store.links.filter (·.campaignId == campaignId)).map (·.segmentId)) :=
        hperm
    _ |>.Perm ((s.database.store.linksOf campaignId).map (·.segmentId)) :=
        (Store.perm_linksOf _ _).symm.map _

/-- The audience of a campaign follows the links of the campaign, while nothing is wrong. -/
theorem resolveCampaign_follows_links (s : Session) (now : Moment) (campaignId : String)
    (h : s.IsReady now) (hlinks : s.database.store.KeepsLinks)
    (hlimit : limitFailure? s.concurrency = none) (hid : isEncodable campaignId = true) :
    s.FollowsLinks campaignId := by
  have hencodable : ∀ l ∈ s.database.store.links, l.campaignId = campaignId →
      isEncodable l.segmentId = true := fun l hl _ => hlinks.ids l hl
  constructor
  case notFound => exact h.targets_notFound_iff hid
  case unresolved =>
    intro hnone
    exact h.resolveCampaign_of_missing hid hnone
  case listed =>
    intro hhas
    exact ⟨s.database.store.linksOf campaignId, Store.perm_linksOf _ _,
      Store.pairwise_linksOf hlinks.positions _, h.targets_of_hasCampaign hid hhas⟩
  case union =>
    intro ids htargets
    have hhas : s.database.store.HasCampaign s.merchantId campaignId := by
      by_contra hnone
      rw [h.targets_of_missing hid hnone] at htargets
      cases htargets
    have hids : ∀ id ∈ ids, isEncodable id = true := by
      rw [h.targets_of_hasCampaign hid hhas] at htargets
      cases htargets
      exact Store.encodable_linksOf hencodable
    exact ⟨Traced.outcome_bind_of_ok htargets _, _, h.resolveUnion_outcome hlimit hids,
      h.laysOut_resolveEach hids⟩
  case unlinked =>
    intro hhas hunlinked
    refine ⟨_, h.resolveCampaign_outcome hlimit hid hencodable hhas, ?_⟩
    rw [Store.linksOf_of_unlinked hunlinked]
    exact ⟨rfl, rfl⟩
  case reordered =>
    intro others hperm a ha
    have hhas : s.database.store.HasCampaign s.merchantId campaignId := by
      by_contra hnone
      rw [h.resolveCampaign_of_missing hid hnone] at ha
      cases ha
    rw [h.resolveCampaign_outcome hlimit hid hencodable hhas] at ha
    cases ha
    obtain ⟨ids, hids, hout⟩ := h.resolveCampaign_reordered hlinks hlimit hid hperm hhas
    exact ⟨_, hout, mem_uniqueIds_of_perm hids, mem_tokens_of_perm hids⟩

/-- A session with a campaign whose links lead to an inactive segment, to an active one at the same
position and, behind them, to none. -/
def campaignSession : Session :=
  (Sample.session []).withStore
    { Sample.store [Sample.row 0 "browser" "chrome" "AND"] with
      segments := [Sample.segment, { Sample.segment with id := "s2", isActive := false }]
      campaigns := [⟨"c1", "m1", none⟩]
      links :=
        [⟨"l1", "c1", "s9", .text "last", none⟩,
          ⟨"l2", "c1", "s1", .whole 1, some ⟨1, none, by decide⟩⟩,
          ⟨"l3", "c2", "s1", .whole 0, none⟩, ⟨"l4", "c1", "s2", .whole 1, none⟩] }

theorem isReady_campaignSession : campaignSession.IsReady Sample.now where
  restored := rfl
  clock := rfl
  merchant := by decide +kernel
  store := {
    names := ⟨by decide, by decide +kernel⟩
    kinds := by decide
    rows := by
      intro row hrow
      rw [List.mem_singleton.mp hrow]
      exact Sample.isEncodable_row 0 (by decide +kernel) (by decide +kernel) (by decide +kernel) }

theorem linksOf_campaignSession :
    (campaignSession.database.store.linksOf "c1").map (·.segmentId) = ["s2", "s1", "s9"] := by
  simp [campaignSession, Store.linksOf, List.mergeSort, List.MergeSort.Internal.splitInTwo,
    Store.linkLe, LooseNumber.le, ageLe]

theorem resolveCampaign_follows_links_campaignSession :
    (campaignSession.targets "c1").outcome = .ok ["s2", "s1", "s9"] ∧
      campaignSession.FollowsLinks "c1" := by
  have hid : isEncodable "c1" = true := by decide +kernel
  have hlinks : campaignSession.database.store.KeepsLinks := ⟨by decide, by decide +kernel⟩
  have hhas : campaignSession.database.store.HasCampaign "m1" "c1" :=
    ⟨_, .head _, rfl, rfl, rfl⟩
  constructor
  · rw [← linksOf_campaignSession]
    exact isReady_campaignSession.targets_of_hasCampaign hid hhas
  · exact resolveCampaign_follows_links campaignSession Sample.now "c1" isReady_campaignSession
      hlinks (by decide) hid

end Session

end Targeting
