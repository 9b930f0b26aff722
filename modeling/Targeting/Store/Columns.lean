import Targeting.Store.Basic
import Targeting.Store.Table

/-!
Stored rows by the names of their columns. A value of another kind than its column keeps leaves the
row as it was, and so does a column that nothing looks at.
-/

namespace Targeting

namespace Json

def text? : Json → Option String
  | .text s => some s
  | _ => none

def bool? : Json → Option Bool
  | .bool b => some b
  | _ => none

/-- A time as it was kept. -/
def time? : Json → Option StoredTime
  | .text s => StoredTime.ofText? s
  | _ => none

/-- What the clock of a kept time shows. -/
def wall? : Json → Option Instant
  | .text s => (Moment.read s).toOption.map (·.wall)
  | _ => none

end Json

open Json

/-- Columns with their new values. -/
abbrev Changes := List (String × Json)

def Merchant.blank : Merchant := ⟨"", ""⟩

def Merchant.set (m : Merchant) (column : String) (value : Json) : Merchant :=
  match column with
  | "id" => { m with id := value.text?.getD m.id }
  | "auth_user_id" => { m with subject := value.text?.getD m.subject }
  | _ => m

def Subscriber.blank : Subscriber :=
  ⟨"", "", none, true, none, none, none, none, none, none, none, none, none, none, none, none⟩

def Subscriber.set (u : Subscriber) (column : String) (value : Json) : Subscriber :=
  match column with
  | "id" => { u with id := value.text?.getD u.id }
  | "merchant_id" => { u with merchantId := value.text?.getD u.merchantId }
  | "fcm_token" => { u with token := value.text? }
  | "is_active" => { u with isActive := value.bool?.getD u.isActive }
  | "email" => { u with email := value.text? }
  | "country" => { u with country := value.text? }
  | "region" => { u with region := value.text? }
  | "city" => { u with city := value.text? }
  | "device" => { u with device := value.text? }
  | "is_mobile" => { u with isMobile := value.bool? }
  | "browser" => { u with browser := value.text? }
  | "os" => { u with os := value.text? }
  | "language" => { u with language := value.text? }
  | "referrer" => { u with referrer := value.text? }
  | "subscribed_at" => { u with subscribedAt := value.time? }
  | "last_seen_at" => { u with lastSeenAt := value.time? }
  | _ => u

def Segment.blank : Segment := ⟨"", "", "", "", true, none, none, none, none, none⟩

def Segment.set (g : Segment) (column : String) (value : Json) : Segment :=
  match column with
  | "id" => { g with id := value.text?.getD g.id }
  | "merchant_id" => { g with merchantId := value.text?.getD g.merchantId }
  | "name" => { g with name := value.text?.getD g.name }
  | "is_active" => { g with isActive := value.bool?.getD g.isActive }
  | "type" => { g with kind := value.text?.getD g.kind }
  | "subscriber_count" => { g with count := LooseNumber.ofJson? value }
  | "criteria_display" => { g with criteria := value.text? }
  | "last_calculated_at" => { g with calculatedAt := value.wall? }
  | "deleted_at" => { g with deletedAt := value.wall? }
  | "created_at" => { g with createdAt := value.time? }
  | _ => g

def Condition.Slot.all : List Condition.Slot :=
  [.id, .kind, .category, .operator, .value, .number, .date, .unit, .country, .region, .city,
    .join]

def ConditionRow.setSlot (row : ConditionRow) (slot : Condition.Slot) (value : Json) :
    ConditionRow :=
  { row with column := fun other => if other = slot then value else row.column other }

def ConditionRow.blank : ConditionRow := ⟨.null, .whole 0, fun _ => .null⟩

def ConditionRow.set (row : ConditionRow) (column : String) (value : Json) : ConditionRow :=
  match column with
  | "segment_id" => { row with segmentId := value }
  | "order_index" => { row with position := (LooseNumber.ofJson? value).getD row.position }
  | _ =>
      match Condition.Slot.all.find? fun slot => slot.columnName == column with
      | some slot => row.setSlot slot value
      | none => row

def Campaign.blank : Campaign := ⟨"", "", none⟩

def Campaign.set (c : Campaign) (column : String) (value : Json) : Campaign :=
  match column with
  | "id" => { c with id := value.text?.getD c.id }
  | "merchant_id" => { c with merchantId := value.text?.getD c.merchantId }
  | "deleted_at" => { c with deletedAt := value.wall? }
  | _ => c

def CampaignLink.blank : CampaignLink := ⟨"", "", "", .whole 0, none⟩

def CampaignLink.set (l : CampaignLink) (column : String) (value : Json) : CampaignLink :=
  match column with
  | "id" => { l with id := value.text?.getD l.id }
  | "campaign_id" => { l with campaignId := value.text?.getD l.campaignId }
  | "segment_id" => { l with segmentId := value.text?.getD l.segmentId }
  | "position" => { l with position := (LooseNumber.ofJson? value).getD l.position }
  | "created_at" => { l with createdAt := value.time? }
  | _ => l

/-- Sets columns one after the other. -/
def setAll {α : Type} (set : α → String → Json → α) (changes : Changes) (row : α) : α :=
  changes.foldl (fun row (column, value) => set row column value) row

def ConditionRow.hasId (row : ConditionRow) (id : String) : Bool :=
  match row.column .id with
  | .text s => s == id
  | _ => false

namespace Store

/-- A row of columns put behind the rows of a table. -/
def insert (s : Store) (table : Table) (columns : Changes) : Store :=
  match table with
  | .merchants =>
      { s with merchants := s.merchants ++ [setAll Merchant.set columns .blank] }
  | .subscribers =>
      { s with subscribers := s.subscribers ++ [setAll Subscriber.set columns .blank] }
  | .segments => { s with segments := s.segments ++ [setAll Segment.set columns .blank] }
  | .segmentConditions =>
      { s with conditionRows := s.conditionRows ++ [setAll ConditionRow.set columns .blank] }
  | .campaigns => { s with campaigns := s.campaigns ++ [setAll Campaign.set columns .blank] }
  | .campaignSegments => { s with links := s.links ++ [setAll CampaignLink.set columns .blank] }

/-- A list with some of its rows changed. -/
def change {α : Type} (isIt : α → Bool) (set : α → String → Json → α) (changes : Changes)
    (rows : List α) : List α :=
  rows.map fun row => if isIt row then setAll set changes row else row

/-- Changes columns of the row with an id. -/
def update (s : Store) (table : Table) (id : String) (changes : Changes) : Store :=
  match table with
  | .merchants =>
      { s with merchants := change (·.id == id) Merchant.set changes s.merchants }
  | .subscribers =>
      { s with subscribers := change (·.id == id) Subscriber.set changes s.subscribers }
  | .segments => { s with segments := change (·.id == id) Segment.set changes s.segments }
  | .segmentConditions =>
      { s with conditionRows := change (·.hasId id) ConditionRow.set changes s.conditionRows }
  | .campaigns => { s with campaigns := change (·.id == id) Campaign.set changes s.campaigns }
  | .campaignSegments => { s with links := change (·.id == id) CampaignLink.set changes s.links }

/-- Removes the row with an id. -/
def delete (s : Store) (table : Table) (id : String) : Store :=
  match table with
  | .merchants => { s with merchants := s.merchants.filter (·.id != id) }
  | .subscribers => { s with subscribers := s.subscribers.filter (·.id != id) }
  | .segments => { s with segments := s.segments.filter (·.id != id) }
  | .segmentConditions => { s with conditionRows := s.conditionRows.filter (!·.hasId id) }
  | .campaigns => { s with campaigns := s.campaigns.filter (·.id != id) }
  | .campaignSegments => { s with links := s.links.filter (·.id != id) }

/-- The ids of the rows of a table. -/
def ids (s : Store) : Table → List String
  | .merchants => s.merchants.map (·.id)
  | .subscribers => s.subscribers.map (·.id)
  | .segments => s.segments.map (·.id)
  | .segmentConditions => s.conditionRows.map fun row => ((row.column .id).text?).getD ""
  | .campaigns => s.campaigns.map (·.id)
  | .campaignSegments => s.links.map (·.id)

/-- What else tells the rows of a table apart: a merchant's subject, and the ends of a link. -/
def pairs (s : Store) : Table → List (List String)
  | .merchants => s.merchants.map fun m => [m.subject]
  | .campaignSegments => s.links.map fun l => [l.campaignId, l.segmentId]
  | _ => []

/-- No two rows of a table are the same in what tells them apart. -/
def WellKeyed (s : Store) (t : Table) : Prop := (s.ids t).Nodup ∧ (s.pairs t).Nodup

instance (s : Store) (t : Table) : Decidable (s.WellKeyed t) :=
  inferInstanceAs (Decidable (_ ∧ _))

end Store

end Targeting
