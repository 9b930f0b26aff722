import Targeting.Proofs.Acceptance
import Targeting.Proofs.Accounting
import Targeting.Proofs.Gaps
import Targeting.Proofs.Responses
import Targeting.Proofs.Surface

/-!
An estimate reports the unsupported categories twice: in a list of their own, which is made from the
conditions, and in the entries that were skipped, which come out of the predicate. The one looks for
the category before anything else, the other for blanks first. They agree because no condition gets
as far whose category is blank, and because no other category is normalized to nothing.
-/

namespace Targeting

open Text

attribute [local irreducible] Condition.formula

/-- Blank text alone is normalized to nothing. -/
theorem normalizedName_eq_empty_iff (written : String) :
    normalizedName written = "" ↔ isBlank written = true := by
  refine ⟨fun h => ?_, normalizedName_of_isBlank⟩
  have hlower : lowerAfter [] (trim written).toList = [] := by
    simpa [normalizedName, lower] using congrArg String.toList h
  rw [lowerAfter_eq_nil_iff, String.toList_eq_nil_iff] at hlower
  exact (trim_eq_empty_iff written).mp hlower

theorem categoryKey_eq_empty_iff (written : String) :
    categoryKey written = "" ↔ isBlank written = true := by
  rw [← normalizedName_eq_empty_iff, categoryKey]
  split
  next hkey => simp [hkey, Category.name]
  next => rfl

namespace Condition

variable {c : Condition} (now : Moment)

theorem isSupported_eq_false_iff : c.isSupported = false ↔
    c.kind = .action ∨ ∀ category : Category, categoryKey c.category ≠ category.name := by
  rw [← Category.ofKey?_eq_none_iff]
  unfold isSupported
  cases c.kind <;> simp

/-- Of the conditions that are filled in, the unsupported ones are rejected for their category. -/
theorem isRejected_iff_of_filled (h : c.isUnfilled = false) :
    c.IsRejected now .unsupportedCategory ↔ c.isSupported = false := by
  have hkey : categoryKey c.category ≠ "" := by
    rw [ne_eq, categoryKey_eq_empty_iff, Bool.not_eq_true]
    exact (Bool.or_eq_false_iff.mp h).1
  rw [unsupportedCategory_iff, isSupported_eq_false_iff, and_iff_right hkey]

end Condition

/-- The category of a rejection, if it is rejected for that. -/
def Rejection.unsupported? (r : Rejection) : Option String :=
  if r.kind = .unsupportedCategory then some r.category else none

theorem Condition.unsupported?_rejection? {c : Condition} (now : Moment)
    (h : c.isUnfilled = false) : (c.rejection? now).bind Rejection.unsupported? =
      if c.isSupported then none else some (categoryKey c.category) := by
  have hrejected := isRejected_iff_of_filled now h
  cases hf : c.formula now with
  | ok f =>
      have hsupported : c.isSupported = true := by
        by_contra hnot
        obtain ⟨r, hr, -⟩ := hrejected.mpr (by simpa using hnot)
        rw [hf] at hr
        cases hr
      rw [rejection?_of_ok hf, if_pos hsupported]
      rfl
  | error r =>
      have hkind : r.kind = .unsupportedCategory ↔ c.isSupported = false := by
        rw [← hrejected]
        constructor
        · exact fun hkind => ⟨r, hf, hkind⟩
        · rintro ⟨other, hother, hkind⟩
          cases hf.symm.trans hother
          exact hkind
      have hcategory : r.category = categoryKey c.category := (names_of_formula hf).2
      rw [rejection?_of_error hf, Option.bind_some, Rejection.unsupported?, hcategory]
      cases hsupported : c.isSupported with
      | true => rw [if_neg (by simp [hkind, hsupported]), if_pos rfl]
      | false => rw [if_pos (hkind.mpr hsupported), if_neg Bool.false_ne_true]

namespace Criteria

/-- What is made from the conditions is found among the rejections too. -/
theorem unsupportedCategories_eq {conditions : List Condition}
    (h : ∀ c ∈ conditions, c.isUnfilled = false) (now : Moment) :
    unsupportedCategories conditions =
      distinct ((conditions.filterMap (·.rejection? now)).filterMap Rejection.unsupported?) := by
  unfold unsupportedCategories
  rw [List.filterMap_filterMap]
  congr 1
  induction conditions with
  | nil => rfl
  | cons c rest ih =>
      have hrest := ih fun other hother => h other (List.mem_cons_of_mem c hother)
      have hc := c.unsupported?_rejection? now (h c List.mem_cons_self)
      cases hsupported : c.isSupported with
      | true =>
          rw [hsupported, if_pos rfl] at hc
          simpa [hsupported, hc] using hrest
      | false =>
          rw [hsupported, if_neg Bool.false_ne_true] at hc
          simpa [hsupported, hc] using hrest

end Criteria

namespace Session

open Traced

variable {s : Session}

theorem skipped_of_estimatePredicate {p : Predicate} {e : Estimate}
    (h : (s.estimatePredicate p).outcome = .ok e) : e.skipped = p.skipped := by
  unfold estimatePredicate at h
  dsimp only at h
  split at h
  · cases h
    rfl
  · split at h
    · cases h
      rfl
    · cases h

theorem unsupported?_of_predicate {conditions : List Condition} {p : Predicate}
    (hfilled : ∀ c ∈ conditions, c.isUnfilled = false)
    (h : (s.predicate conditions).outcome = .ok p) :
    Criteria.unsupportedCategories conditions =
      distinct (p.skipped.filterMap Rejection.unsupported?) := by
  cases conditions with
  | nil =>
      cases h
      rfl
  | cons c rest =>
      obtain ⟨now, -, hp⟩ := exists_of_outcome_bind h
      cases hp
      rw [Predicate.ofConditions_eq]
      exact Criteria.unsupportedCategories_eq hfilled now

/-- The entries that an estimate skips for their category have the categories that are unsupported
among the conditions that are filled in. -/
theorem unsupported?_of_estimate {conditions : List Condition} {e : Estimate}
    (h : (s.estimate conditions).outcome = .ok e) :
    Criteria.unsupportedCategories (conditions.filter (!·.isUnfilled)) =
      distinct (e.skipped.filterMap Rejection.unsupported?) := by
  obtain ⟨p, hp, hrest⟩ := exists_of_outcome_bind h
  obtain ⟨-, -, hestimate⟩ := exists_of_outcome_bind hrest
  rw [skipped_of_estimatePredicate hestimate]
  exact unsupported?_of_predicate (by simp) hp

/-- An estimate whose count does not crash comes to something. -/
theorem exists_estimate_outcome {now : Moment} {conditions : List Condition}
    (hnow : s.now = .ok now) (htold : ∃ seconds, toldSeconds s.timeout = .ok seconds)
    (hcount : ∀ c, s.database.breakdown? (.subscribers "count"
      (.ofConditions (conditions.filter (!·.isUnfilled)) s.merchantId now)) ≠ some (.crash c)) :
    ∃ e, (s.estimate conditions).outcome = .ok e := by
  obtain ⟨seconds, hseconds⟩ := htold
  unfold estimate
  rw [outcome_bind_of_ok (predicate_outcome hnow _), outcome_bind_of_ok (outcome_tell _)]
  unfold estimatePredicate count ask
  dsimp only
  cases hq : s.database.breakdown? (.subscribers "count"
      (.ofConditions (conditions.filter (!·.isUnfilled)) s.merchantId now)) with
  | none => exact ⟨_, rfl⟩
  | some b =>
      cases b with
      | crash c => exact absurd hq (hcount c)
      | driver label => exact ⟨_, rfl⟩
      | silence =>
          unfold broken
          rw [hseconds]
          exact ⟨_, rfl⟩

end Session

namespace Http

/-- The category of an entry, if it was skipped for that. -/
def skippedFor? (item : Json) : Option String :=
  match item.field? "error_type", item.field? "category" with
  | some (.text kind), some (.text category) =>
      if kind = "UnsupportedCategory" then some category else none
  | _, _ => none

/-- The categories of the entries that were skipped for their category, each once, are the ones that
are listed as unsupported. -/
def ReportsAlike (page : Json) : Prop :=
  ∃ items, page.field? "skipped" = some (.list items) ∧
    page.field? "unsupported_categories" = some (.texts (distinct (items.filterMap skippedFor?)))

/-- Nothing is said of categories or of conditions that were skipped. -/
def ReportsNothing (value : Json) : Prop :=
  value.field? "skipped" = none ∧ value.field? "unsupported_categories" = none

theorem TellsRejection.skippedFor?_eq {r : Rejection} {item : Json} (h : TellsRejection r item) :
    skippedFor? item = r.unsupported? := by
  have hlabel : r.kind.label = "UnsupportedCategory" ↔ r.kind = .unsupportedCategory := by
    cases r.kind <;> decide
  unfold skippedFor?
  rw [h.kind, h.category]
  simp only [hlabel, Rejection.unsupported?]

theorem filterMap_skippedFor? {rejections : List Rejection} {items : List Json}
    (h : List.Forall₂ TellsRejection rejections items) :
    items.filterMap skippedFor? = rejections.filterMap Rejection.unsupported? := by
  induction h with
  | nil => rfl
  | cons hitem _ ih => simp only [List.filterMap_cons, hitem.skippedFor?_eq, ih]

theorem TellsEstimate.reportsAlike {conditions : List Condition} {now : Moment} {e : Estimate}
    {page : Json} (h : TellsEstimate conditions now e page)
    (he : Criteria.unsupportedCategories (conditions.filter (!·.isUnfilled)) =
      distinct (e.skipped.filterMap Rejection.unsupported?)) : ReportsAlike page := by
  obtain ⟨items, hitems, hentries⟩ := h.skipped
  refine ⟨items, hitems, ?_⟩
  rw [h.unsupported, he, filterMap_skippedFor? hentries]

namespace Service

variable {s : Service} {r : Request}

/-- Whatever goes wrong at other requests, a page of an estimate reports the same twice. -/
theorem reportsAlike_of_run {page : Json} (h : (s.run r .estimate).answer = .ok page) :
    ReportsAlike page := by
  obtain ⟨merchantId, body, hperform⟩ := exists_of_run rfl h
  cases hread : readConditions s.freshConditionId body with
  | error issues =>
      change (s.estimate (s.session merchantId s.clock) body).answer = .ok page at hperform
      rw [estimate, hread] at hperform
      cases hperform
  | ok conditions =>
      rw [(s.estimate_of_read hread _).2] at hperform
      cases hout : ((s.session merchantId s.clock).estimate conditions).outcome with
      | error f =>
          rw [answer_ofTraced_of_error hout] at hperform
          cases hperform
      | ok e =>
          rw [answer_ofTraced_of_ok hout] at hperform
          cases hclock : s.clock with
          | error c =>
              rw [hclock] at hperform
              cases hperform
          | ok now =>
              rw [hclock] at hperform
              cases hperform
              exact (tellsEstimate conditions now e).reportsAlike
                (Session.unsupported?_of_estimate hout)

/-- A request for an estimate, and what its answer reports of categories. -/
structure EstimatesAlike (s : Service) (r : Request) (conditions : List Condition) : Prop where
  /-- The estimate is answered, also when the store fails to count. -/
  answered : ∃ page, s.Sends r 200 page ∧ ReportsAlike page
  /-- No answer whatever reports one thing in one place and another in the other. -/
  alike : ∀ value, (s.handle r).2.2.body = .json value →
    ReportsAlike value ∨ ReportsNothing value
  /-- What is filtered out as not filled in would not have counted for anything. -/
  unfilled : ∀ c ∈ conditions, c.isUnfilled = true → ∀ now, ∃ rejection,
    c.formula now = .error rejection

/-- The two reports of an estimate agree, whatever the conditions are, and whether the store counts
or says that it does not. -/
theorem estimate_reports_alike (s : Service) (r : Request) (subject : String) (m : Merchant)
    (body : Option Json) (conditions : List Condition) (now : Moment) (path : String)
    (h : s.Reaches r .estimate subject m) (horder : s.InOrder r subject now path)
    (hbody : readBody r = .ok body)
    (hread : readConditions s.freshConditionId body = .ok conditions)
    (htold : ∃ seconds, Session.toldSeconds s.settings.storeTimeout = .ok seconds)
    (hcount : ∀ c, s.database.breakdown? (.subscribers "count"
      (.ofConditions (conditions.filter (!·.isUnfilled)) m.id now)) ≠ some (.crash c)) :
    s.EstimatesAlike r conditions := by
  constructor
  · obtain ⟨e, he⟩ := Session.exists_estimate_outcome (s := s.session m.id s.clock) horder.clock
      htold hcount
    have hanswer : (s.run r .estimate).answer = .ok (estimatePage conditions.length
        (Criteria.unsupportedCategories (conditions.filter (!·.isUnfilled))) now e) := by
      rw [h.run_eq horder.lookup hbody, (s.estimate_of_read hread _).2, answer_ofTraced_of_ok he,
        horder.clock]
      rfl
    exact ⟨_, h.sends_of_page hanswer, reportsAlike_of_run hanswer⟩
  · intro value hvalue
    rcases (responds_of_found h.found).page_or_problem hvalue with hpage | ⟨_, _, _, _, rfl⟩
    · exact .inl (reportsAlike_of_run hpage)
    · exact .inr ⟨field?_written_eq_none (by decide) _ _ _ _,
        field?_written_eq_none (by decide) _ _ _ _⟩
  · intro c _ hunfilled now
    have hnone := c.formula?_of_isUnfilled now hunfilled
    cases hf : c.formula now with
    | error rejection => exact ⟨rejection, rfl⟩
    | ok f =>
        rw [Condition.formula?_of_ok hf] at hnone
        cases hnone

section Weather

/-- A request for an estimate of an unknown category, and of a row that is not filled in. -/
def weatherRequest : Request :=
  Sample.request "POST" "/api/v2/segments/estimate"
    ("\x7b\"conditions\":[\x7b\"category\":\" Weather\",\"operator\":\"is\"\x7d,"
      ++ "\x7b\"category\":\"browser\"\x7d]\x7d")

def weatherBody : Json :=
  .object [("conditions", .list [
    .object [("category", .text " Weather"), ("operator", .text "is")],
    .object [("category", .text "browser")]])]

def weatherCondition (category operator : String) : Condition :=
  ⟨"c", .property, category, operator, none, none, none, none, none, none, none, none⟩

def weatherConditions : List Condition :=
  [weatherCondition " Weather" "is", weatherCondition "browser" ""]

theorem readBody_weatherRequest : readBody weatherRequest = .ok (some weatherBody) := rfl

end Weather

/-- Without its subscribers the service still reports what is unsupported, in both places. -/
theorem estimate_reports_alike_weather :
    (lacking [.subscribers]).Reaches weatherRequest .estimate "user_1" ⟨"m1", "user_1"⟩ ∧
      (lacking [.subscribers]).InOrder weatherRequest "user_1" Sample.now
        "/api/v2/segments/estimate" ∧
      readConditions "c" (some weatherBody) = .ok weatherConditions ∧
      Criteria.unsupportedCategories (weatherConditions.filter (!·.isUnfilled)) = ["weather"] ∧
      (lacking [.subscribers]).EstimatesAlike weatherRequest weatherConditions := by
  have hreaches : (lacking [.subscribers]).Reaches weatherRequest .estimate "user_1"
      ⟨"m1", "user_1"⟩ :=
    reaches_request rfl (by decide +kernel) rfl ⟨_, readBody_weatherRequest⟩
  have horder : (lacking [.subscribers]).InOrder weatherRequest "user_1" Sample.now
      "/api/v2/segments/estimate" :=
    ⟨by decide +kernel, clock_lacking _, by decide +kernel⟩
  have hread : readConditions "c" (some weatherBody) = .ok weatherConditions := rfl
  refine ⟨hreaches, horder, hread, by decide +kernel,
    estimate_reports_alike _ _ _ _ _ _ _ _ hreaches horder readBody_weatherRequest hread
      ⟨_, rfl⟩ fun c hc => ?_⟩
  cases hc

end Service

end Http

end Targeting
