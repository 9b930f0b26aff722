import Targeting.Audience.Campaign
import Targeting.Audience.Recount
import Targeting.Audience.Statistics
import Targeting.Scalar
import Targeting.Settings.Live
import Targeting.Text.Utf8

/-!
What the endpoints say when all is well.
-/

namespace Targeting.Http

def skippedJson (id category : Json) (kind : Rejection.Kind) (reason : String) : Json :=
  .object [("condition_id", id), ("category", category), ("error_type", .text kind.label),
    ("reason", .text reason)]

def rejectionJson (r : Rejection) : Json :=
  skippedJson (.text r.conditionId) (.text r.category) r.kind r.reason

/-- A malformed row is reported as an incomplete condition. -/
def malformedJson (m : MalformedRow) : Json :=
  skippedJson m.id (if m.category.isNothing then .text "" else m.category) .incomplete m.reason

def rootPage (s : LiveSettings) : Json :=
  .object ([("name", .text "Push Audience API"), ("version", .text "1.0.0"),
    ("health", .text "/health")] ++ if s.hasDocs then [("docs", .text "/docs")] else [])

def healthPage (s : LiveSettings) : Json :=
  .object [("status", .text "healthy"), ("version", .text "1.0.0"),
    ("environment", s.environment)]

def categoriesPage : Json :=
  .object [("categories", .list (Category.all.map Category.toJson))]

/-- An estimate of conditions as they were received, those not filled in included. -/
def estimatePage (received : Nat) (unsupported : List String) (now : Moment) (e : Estimate) :
    Json :=
  .object [("estimated_count", .ofNat e.count), ("conditions", .ofNat received),
    ("skipped", .list (e.skipped.map rejectionJson)),
    ("unsupported_categories", .texts unsupported), ("error", .ofText? e.error),
    ("timestamp", .text now.zuluText)]

def statisticsPage (now : Moment) (t : Statistics) : Json :=
  .object [("total_segments", .ofNat t.totalSegments),
    ("active_segments", .ofNat t.activeSegments),
    ("total_subscribers", .ofNat t.totalSubscribers),
    ("average_subscribers_per_segment", .ofNat t.average), ("timestamp", .text now.zuluText)]

def recountEntryJson (e : RecountEntry) : Json :=
  .object [("segment_id", .text e.segmentId), ("segment_name", .text e.segmentName),
    ("subscriber_count", e.count.toJson), ("criteria_display", .text e.criteria),
    ("error", .ofText? e.error)]

/-- As many code points as fit into some bytes. -/
def fitting (room : Nat) : List Nat → List Nat
  | [] => []
  | n :: rest =>
      let width := (Text.utf8Bytes n).length
      if width ≤ room then n :: fitting (room - width) rest else []

/-- The start and the end of a text that is longer than fifty bytes, as far as whole characters fit
into twenty-five bytes in front and twenty-four behind. -/
def shortened (s : String) : String :=
  let ns := Text.points s
  if (Text.bytesOf s).length ≤ 50 then s
  else Text.ofPoints (fitting 25 ns) ++ "..." ++ Text.ofPoints (fitting 24 ns.reverse).reverse

/-- Where an issue of a kind is explained. -/
def explanation (code : String) : String := "https:" ++ "//errors.pydantic.dev/2.14/v/" ++ code

/-- What is said of a count that is no whole number. -/
def countCrash (count : Json) (cause : Issue.Cause) : Crash :=
  ⟨"ValidationError",
    some ("1 validation error for SegmentCountUpdateResponse\nsubscriber_count\n  " ++ cause.message
      ++ " [type=" ++ cause.code ++ ", input_value=" ++ shortened count.innerLabel
      ++ ", input_type=" ++ count.kindName ++ "]\n    For further information visit "
      ++ explanation cause.code)⟩

/-- An entry with its count as a whole number. -/
def countedEntry (e : RecountEntry) : Except Crash RecountEntry :=
  match Scalar.readInteger e.count.toJson with
  | .ok n => .ok { e with count := .whole n }
  | .error cause => .error (countCrash e.count.toJson cause)

def recountPage (now : Except Crash Moment) (entries : List RecountEntry) : Except Crash Json := do
  let counted ← entries.mapM countedEntry
  let now ← now
  pure (.object [("updated", .ofNat (entries.countP fun e => e.error.isNone)),
    ("segments", .list (counted.map recountEntryJson)), ("timestamp", .text now.zuluText)])

def segmentPage (a : SegmentAudience) : Json :=
  .object [("segment_id", .text a.segmentId), ("segment_name", .text a.segmentName),
    ("is_active", .bool a.isActive), ("subscriber_count", .ofNat a.members.length),
    ("subscriber_ids", .texts a.subscriberIds), ("tokens", .texts a.tokens),
    ("skipped", .list (a.malformed.map malformedJson ++ a.rejected.map rejectionJson))]

def breakdownJson (a : Audience) : Json :=
  .list (a.entries.map fun e =>
    .object [("segment_id", .text e.segmentId), ("segment_name", .ofText? e.segmentName),
      ("status", .text e.status.name), ("subscriber_count", .ofNat e.members.length),
      ("error", .ofText? e.error)])

def audiencePage (a : Audience) : Json :=
  .object [("unique_ids", .texts a.uniqueIds), ("tokens", .texts a.tokens),
    ("total_raw_count", .ofNat a.totalRawCount), ("unique_count", .ofNat a.uniqueIds.length),
    ("segment_count", .ofNat a.entries.length), ("per_segment_breakdown", breakdownJson a)]

def reachPage (campaignId : String) (a : Audience) : Json :=
  .object [("campaign_id", .text campaignId), ("total_reach", .ofNat a.totalRawCount),
    ("unique_subscribers", .ofNat a.uniqueIds.length), ("segment_breakdown", breakdownJson a)]

end Targeting.Http
