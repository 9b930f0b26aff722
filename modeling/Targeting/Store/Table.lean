import Targeting.Calendar.StoredTime
import Targeting.Crash
import Targeting.Store.LooseNumber

/-!
The tables of the store and their columns. A column has a kind, which says what may be put into it
and how that is kept. It may have to be filled, and it may fill itself in a row that is inserted
without a value for it.
-/

namespace Targeting

open Number

inductive Table where
  | merchants
  | subscribers
  | segments
  | segmentConditions
  | campaigns
  | campaignSegments
  deriving DecidableEq, Repr

/-- What a column is for. -/
inductive ColumnKind where
  | text
  | whole
  | real
  | flag
  | date
  | time
  | choice
  deriving DecidableEq, Repr

namespace ColumnKind

/-- A value is put into a column that is not of its kind. -/
def misfit : Crash := .driver "StatementError"

/-- A value that the store has no form for. -/
def unstorable : Crash := .driver "ProgrammingError"

/-- The error of a text that is no date or time. -/
def unreadableTime (s : String) (fault : Moment.Fault) : Crash := .value (fault.describe s)

/-- Dates and times are written in text. They are read first, and handed over in the text of the
store. -/
def readTime (kind : ColumnKind) (value : Json) : Except Crash Json :=
  match kind, value with
  | .date, .text s => ((Date.read s).mapError (unreadableTime s)).map fun d => .text d.text
  | .time, .text s =>
      ((Moment.read s).mapError (unreadableTime s)).map fun m => .text m.storedText
  | _, value => .ok value

/-- The flag that a value stands for: a truth value, or zero or one. -/
def flag? (value : Json) : Option Bool :=
  match value.amount? with
  | some (.whole n) => if n = 0 then some false else if n = 1 then some true else none
  | some (.real x) => if x.isZero then some false else if x = .ofNat 1 then some true else none
  | none => none

/-- The number that a value stands for: a number, a truth value, or text that spells a number. -/
def real? : Json → Option Binary64
  | .text s => convertNumber? s
  | value => value.amount?.bind (·.toReal?)

/-- Takes a value in. Columns of text and of whole numbers take anything at first. -/
def accept (kind : ColumnKind) (value : Json) : Except Crash Json :=
  match kind, value with
  | _, .null => .ok .null
  | .text, _ | .whole, _ => .ok value
  | .real, _ => ((real? value).map Json.real).elim (.error misfit) .ok
  | .flag, _ => ((flag? value).map Json.bool).elim (.error misfit) .ok
  | .date, .text _ | .time, .text _ | .choice, .text _ => .ok value
  | _, _ => .error misfit

/-- A whole number within what the store can hold. -/
def storable (n : Int) : Except Crash Int :=
  if -LooseNumber.bound ≤ n ∧ n < LooseNumber.bound then .ok n
  else .error ⟨"OverflowError", some "Python int too large to convert to SQLite INTEGER"⟩

/-- The form in which a value is handed over to the store. -/
def handOver : Json → Except Crash Json
  | .bool b => .ok (.integer (if b then 1 else 0))
  | .integer n => (storable n).map .integer
  | .text s =>
      match Crash.ofText? s with
      | some c => .error c
      | none => .ok (.text s)
  | .list _ | .object _ => .error unstorable
  | value => .ok value

/-- What a column keeps of a value: columns of text keep a number as text, those of whole numbers
keep text as a number where it spells one, NaN is kept as nothing, and zero without a sign. -/
def keep (kind : ColumnKind) (value : Json) : Except Crash Json :=
  (handOver value).map fun given =>
    match kind, given with
    | .flag, .integer n => .bool (n != 0)
    | .text, .integer _ => .text given.label
    | .text, .real x => .ofText? x.storedText?
    | .whole, .real x => ((LooseNumber.ofReal? x).map (·.toJson)).getD .null
    | .whole, .text s => (LooseNumber.ofText s).toJson
    | .real, .real x => if x = .nan then .null else if x.isZero then .real .zero else given
    | _, _ => given

end ColumnKind

/-- What a row is given in a column that it is inserted without. -/
inductive Filling where
  | nothing
  | value (v : Json)
  | freshId
  | insertionTime

structure Column where
  name : String
  kind : ColumnKind
  isRequired : Bool
  filling : Filling

namespace Column

/-- A column of a kind that may stay empty. -/
def optional (kind : ColumnKind) (name : String) : Column := ⟨name, kind, false, .nothing⟩

def required (kind : ColumnKind) (name : String) : Column := ⟨name, kind, true, .nothing⟩

/-- A column that is filled with a value. -/
def filled (kind : ColumnKind) (name : String) (isRequired : Bool) (value : Json) : Column :=
  ⟨name, kind, isRequired, .value value⟩

def key : Column := ⟨"id", .text, true, .freshId⟩

/-- When a row came to be. -/
def since (name : String) : Column := ⟨name, .time, false, .insertionTime⟩

/-- When a row came to be, and when it was changed last. -/
def dates : List Column := [since "created_at", optional .time "updated_at"]

end Column

namespace Table

def all : List Table :=
  [.merchants, .subscribers, .segments, .segmentConditions, .campaigns, .campaignSegments]

def name : Table → String
  | .merchants => "merchants"
  | .subscribers => "subscribers"
  | .segments => "segments"
  | .segmentConditions => "segment_conditions"
  | .campaigns => "campaigns"
  | .campaignSegments => "campaign_segments"

def ofName? (name : String) : Option Table :=
  all.find? fun t => t.name == name

/-- What one row of a table is called. -/
def rowName : Table → String
  | .merchants => "Merchant"
  | .subscribers => "Subscriber"
  | .segments => "Segment"
  | .segmentConditions => "SegmentCondition"
  | .campaigns => "Campaign"
  | .campaignSegments => "CampaignSegment"

open Column

def columns : Table → List Column
  | .merchants =>
      [key, required .text "name", required .text "auth_user_id", optional .text "store_url"]
        ++ dates
  | .subscribers =>
      [key, required .text "merchant_id", filled .flag "is_active" true (.bool true),
        filled .flag "is_mobile" false (.bool false), since "subscribed_at",
        optional .time "last_seen_at"]
        ++ ["fcm_token", "email", "first_name", "last_name", "country", "region", "city", "device",
          "browser", "os", "language", "referrer"].map (optional .text)
        ++ dates
  | .segments =>
      [key, required .text "merchant_id", required .text "name", optional .text "description",
        filled .choice "type" true (.text "dynamic"), filled .flag "is_active" true (.bool true),
        filled .whole "subscriber_count" false (.integer 0), optional .text "criteria_display",
        optional .time "last_calculated_at", optional .time "deleted_at"]
        ++ dates
  | .segmentConditions =>
      [key, required .text "segment_id", filled .whole "order_index" true (.integer 0),
        filled .text "type" true (.text "property"), required .text "category",
        required .text "operator", optional .real "number_value", optional .date "date_value"]
        ++ ["value", "date_unit", "location_country", "location_region", "location_city",
          "logical_operator"].map (optional .text)
        ++ [since "created_at"]
  | .campaigns =>
      [key, required .text "merchant_id", required .text "title",
        filled .text "status" false (.text "draft"), optional .time "deleted_at"]
        ++ dates
  | .campaignSegments =>
      [key, required .text "campaign_id", required .text "segment_id",
        filled .whole "position" true (.integer 0), since "created_at"]

def column? (t : Table) (name : String) : Option Column :=
  t.columns.find? fun c => c.name == name

end Table

end Targeting
