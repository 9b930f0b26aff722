import Mathlib.Data.List.Forall2
import Targeting.Proofs.Promises

/-!
What the pages of the service tell. Each endpoint writes what an operation has found into members of
its own names, and a client reads it there: nothing is lost on the way and nothing is exchanged. A
problem tells of a failure in the same manner, under the status and the code that the failure has.
-/

namespace Targeting.Http

/-- A list is told item by item, in its order. -/
def TellsEach {α : Type} (tells : α → Json → Prop) (items : List α) (value : Option Json) : Prop :=
  ∃ told, value = some (.list told) ∧ List.Forall₂ tells items told

theorem forall₂_map_self {α : Type} {tells : α → Json → Prop} {write : α → Json}
    (h : ∀ a, tells a (write a)) (items : List α) :
    List.Forall₂ tells items (items.map write) := by
  apply List.forall₂_map_right_iff.mpr
  apply List.forall₂_same.mpr
  intro a _
  exact h a

theorem tellsEach_map {α : Type} {tells : α → Json → Prop} {write : α → Json}
    (h : ∀ a, tells a (write a)) (items : List α) :
    TellsEach tells items (some (.list (items.map write))) :=
  ⟨_, rfl, forall₂_map_self h items⟩

structure TellsRejection (r : Rejection) (item : Json) : Prop where
  condition : item.field? "condition_id" = some (.text r.conditionId)
  category : item.field? "category" = some (.text r.category)
  kind : item.field? "error_type" = some (.text r.kind.label)
  reason : item.field? "reason" = some (.text r.reason)

/-- A row without a category is told with an empty one. -/
structure TellsMalformed (row : MalformedRow) (item : Json) : Prop where
  condition : item.field? "condition_id" = some row.id
  category : item.field? "category" =
    some (if row.category.isNothing then .text "" else row.category)
  kind : item.field? "error_type" = some (.text "IncompleteCondition")
  reason : item.field? "reason" = some (.text row.reason)

structure TellsEntry (e : UnionEntry) (item : Json) : Prop where
  segment : item.field? "segment_id" = some (.text e.segmentId)
  name : item.field? "segment_name" = some (.ofText? e.segmentName)
  status : item.field? "status" = some (.text e.status.name)
  count : item.field? "subscriber_count" = some (.ofNat e.members.length)
  error : item.field? "error" = some (.ofText? e.error)

structure TellsUpdate (e : RecountEntry) (item : Json) : Prop where
  segment : item.field? "segment_id" = some (.text e.segmentId)
  name : item.field? "segment_name" = some (.text e.segmentName)
  count : item.field? "subscriber_count" = some e.count.toJson
  criteria : item.field? "criteria_display" = some (.text e.criteria)
  error : item.field? "error" = some (.ofText? e.error)

/-- Conditions are counted as they were received, those that are not filled in included. -/
structure TellsEstimate (conditions : List Condition) (now : Moment) (e : Estimate)
    (page : Json) : Prop where
  count : page.field? "estimated_count" = some (.ofNat e.count)
  received : page.field? "conditions" = some (.ofNat conditions.length)
  skipped : TellsEach TellsRejection e.skipped (page.field? "skipped")
  unsupported : page.field? "unsupported_categories" =
    some (.texts (Criteria.unsupportedCategories (conditions.filter (!·.isUnfilled))))
  error : page.field? "error" = some (.ofText? e.error)
  time : page.field? "timestamp" = some (.text now.zuluText)

structure TellsStatistics (now : Moment) (t : Statistics) (page : Json) : Prop where
  segments : page.field? "total_segments" = some (.ofNat t.totalSegments)
  active : page.field? "active_segments" = some (.ofNat t.activeSegments)
  subscribers : page.field? "total_subscribers" = some (.ofNat t.totalSubscribers)
  average : page.field? "average_subscribers_per_segment" = some (.ofNat t.average)
  time : page.field? "timestamp" = some (.text now.zuluText)

structure TellsRecount (now : Moment) (entries : List RecountEntry) (page : Json) : Prop where
  updated : page.field? "updated" = some (.ofNat (entries.countP fun e => e.error.isNone))
  segments : TellsEach TellsUpdate entries (page.field? "segments")
  time : page.field? "timestamp" = some (.text now.zuluText)

/-- The rows that cannot be read are told before the conditions that are rejected. -/
structure TellsSegment (a : SegmentAudience) (page : Json) : Prop where
  segment : page.field? "segment_id" = some (.text a.segmentId)
  name : page.field? "segment_name" = some (.text a.segmentName)
  active : page.field? "is_active" = some (.bool a.isActive)
  count : page.field? "subscriber_count" = some (.ofNat a.members.length)
  ids : page.field? "subscriber_ids" = some (.texts a.subscriberIds)
  tokens : page.field? "tokens" = some (.texts a.tokens)
  skipped : ∃ malformed rejected, page.field? "skipped" = some (.list (malformed ++ rejected)) ∧
    List.Forall₂ TellsMalformed a.malformed malformed ∧
      List.Forall₂ TellsRejection a.rejected rejected

structure TellsAudience (a : Audience) (page : Json) : Prop where
  ids : page.field? "unique_ids" = some (.texts a.uniqueIds)
  tokens : page.field? "tokens" = some (.texts a.tokens)
  total : page.field? "total_raw_count" = some (.ofNat a.totalRawCount)
  unique : page.field? "unique_count" = some (.ofNat a.uniqueIds.length)
  segments : page.field? "segment_count" = some (.ofNat a.entries.length)
  breakdown : TellsEach TellsEntry a.entries (page.field? "per_segment_breakdown")

structure TellsReach (campaignId : String) (a : Audience) (page : Json) : Prop where
  campaign : page.field? "campaign_id" = some (.text campaignId)
  total : page.field? "total_reach" = some (.ofNat a.totalRawCount)
  unique : page.field? "unique_subscribers" = some (.ofNat a.uniqueIds.length)
  breakdown : TellsEach TellsEntry a.entries (page.field? "segment_breakdown")

theorem tellsRejection (r : Rejection) : TellsRejection r (rejectionJson r) :=
  ⟨rfl, rfl, rfl, rfl⟩

theorem tellsMalformed (row : MalformedRow) : TellsMalformed row (malformedJson row) :=
  ⟨rfl, rfl, rfl, rfl⟩

theorem tellsUpdate (e : RecountEntry) : TellsUpdate e (recountEntryJson e) :=
  ⟨rfl, rfl, rfl, rfl, rfl⟩

theorem tellsEach_breakdown (a : Audience) :
    TellsEach TellsEntry a.entries (some (breakdownJson a)) := by
  apply tellsEach_map
  intro e
  exact ⟨rfl, rfl, rfl, rfl, rfl⟩

theorem tellsEstimate (conditions : List Condition) (now : Moment) (e : Estimate) :
    TellsEstimate conditions now e (estimatePage conditions.length
      (Criteria.unsupportedCategories (conditions.filter (!·.isUnfilled))) now e) :=
  ⟨rfl, rfl, tellsEach_map tellsRejection _, rfl, rfl, rfl⟩

theorem tellsStatistics (now : Moment) (t : Statistics) :
    TellsStatistics now t (statisticsPage now t) :=
  ⟨rfl, rfl, rfl, rfl, rfl⟩

theorem tellsSegment (a : SegmentAudience) : TellsSegment a (segmentPage a) where
  segment := rfl
  name := rfl
  active := rfl
  count := rfl
  ids := rfl
  tokens := rfl
  skipped := ⟨_, _, rfl, forall₂_map_self tellsMalformed _, forall₂_map_self tellsRejection _⟩

theorem tellsAudience (a : Audience) : TellsAudience a (audiencePage a) :=
  ⟨rfl, rfl, rfl, rfl, rfl, tellsEach_breakdown a⟩

theorem tellsReach (campaignId : String) (a : Audience) :
    TellsReach campaignId a (reachPage campaignId a) :=
  ⟨rfl, rfl, rfl, tellsEach_breakdown a⟩

/-- A recount of whole numbers has a page. -/
theorem exists_recountPage (now : Moment) {entries : List RecountEntry}
    (h : ∀ e ∈ entries, ∃ n, e.count = .whole n) :
    ∃ page, recountPage (.ok now) entries = .ok page ∧ TellsRecount now entries page := by
  unfold recountPage
  rw [mapM_countedEntry h]
  exact ⟨_, rfl, rfl, tellsEach_map tellsUpdate entries, rfl⟩

/-- The status and the code under which a failure is answered. For anything that nobody expects
there are none. -/
def statusAndCode? : Failure → Option (Nat × String)
  | .segmentNotFound _ => some (404, "RES_002")
  | .campaignNotFound _ => some (404, "RES_003")
  | .storeTimeout _ _ => some (504, "EXT_002")
  | .storeError _ _ => some (503, "EXT_001")
  | .resolution _ _ => some (503, "AUD_001")
  | .negativeConcurrency | .noSessions | .crash _ => none

structure TellsComplaint (complaint : String × String) (item : Json) : Prop where
  segment : item.field? "segment_id" = some (.text complaint.1)
  message : item.field? "message" = some (.text complaint.2)

/-- Only the failure of a union says anything of single segments, and then of each that failed. -/
structure TellsFailure (f : Failure) (status : Nat) (code : String) (problem : Json) : Prop where
  status : problem.field? "status" = some (.ofNat status)
  code : problem.field? "code" = some (.text code)
  detail : problem.field? "detail" = some (.text f.message)
  errors : ∀ count failures, f = .resolution count failures → failures ≠ [] →
    TellsEach TellsComplaint failures (problem.field? "errors")
  noErrors : (∀ count failures, f ≠ .resolution count failures) → problem.field? "errors" = none

theorem exists_complaint_of_statusAndCode? {f : Failure} {status : Nat} {code : String}
    (h : statusAndCode? f = some (status, code)) :
    ∃ c : Complaint, (Trouble.failure f).complaint = .ok c ∧ c.status = status ∧
      c.code.text = code ∧ c.detail = f.message ∧ c.errors = Service.failureErrors f := by
  cases f with
  | negativeConcurrency | noSessions | crash => cases h
  | segmentNotFound | campaignNotFound | storeTimeout | storeError | resolution =>
      cases h
      exact ⟨_, rfl, rfl, rfl, rfl, rfl⟩

theorem complaint_of_statusAndCode?_eq_none {f : Failure} (h : statusAndCode? f = none) :
    ∃ c, (Trouble.failure f).complaint = .error c := by
  cases f with
  | negativeConcurrency | noSessions | crash => exact ⟨_, rfl⟩
  | segmentNotFound | campaignNotFound | storeTimeout | storeError | resolution => cases h

/-- What a problem says is written into its members; what there is nothing to say of has none. -/
theorem field?_written (id path : String) (now : Moment) (c : Complaint) :
    (Service.written id path now c).field? "status" = some (.ofNat c.status) ∧
      (Service.written id path now c).field? "code" = some (.text c.code.text) ∧
      (Service.written id path now c).field? "detail" = some (.text c.detail) ∧
      (Service.written id path now c).field? "errors" = c.errors.filter (!·.isNull) := by
  simp only [Service.written, Problem.toJson, Json.field?, Json.lookup?, List.find?_filter]
  refine ⟨?_, ?_, ?_, ?_⟩
  · simp [Problem.members, Json.isNull, Problem.ofStatus, Json.ofNat]
  · simp [Problem.members, Json.isNull, Problem.ofStatus]
  · simp [Problem.members, Json.isNull, Problem.ofStatus]
  · cases c.errors with
    | none => simp [Problem.members, Json.isNull, Problem.ofStatus]
    | some errors =>
        cases hnull : errors.isNull <;>
          simp [Problem.members, hnull, Problem.ofStatus, Option.filter]

theorem tellsFailure_written {f : Failure} {status : Nat} {code : String} {c : Complaint}
    (hstatus : c.status = status) (hcode : c.code.text = code) (hdetail : c.detail = f.message)
    (herrors : c.errors = Service.failureErrors f) (id path : String) (now : Moment) :
    TellsFailure f status code (Service.written id path now c) := by
  obtain ⟨hfieldStatus, hfieldCode, hfieldDetail, hfieldErrors⟩ := field?_written id path now c
  rw [herrors] at hfieldErrors
  constructor
  · rw [hfieldStatus, hstatus]
  · rw [hfieldCode, hcode]
  · rw [hfieldDetail, hdetail]
  · rintro count failures rfl hne
    rw [hfieldErrors, Service.failureErrors, if_neg (by simpa using hne)]
    apply tellsEach_map
    intro complaint
    exact ⟨rfl, rfl⟩
  · intro hother
    rw [hfieldErrors]
    cases f with
    | resolution count failures => exact absurd rfl (hother count failures)
    | _ => rfl

end Targeting.Http
