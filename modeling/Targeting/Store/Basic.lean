import Targeting.Condition.Reader
import Targeting.Crash
import Targeting.Formula.Basic
import Targeting.Store.LooseNumber
import Targeting.Subscriber

/-!
The store: merchants, their subscribers, segments with condition rows, and campaigns with links
to segments. Tables are kept in the order of insertion. Look-ups here are what the queries mean;
whether a query is answered at all is another matter.
-/

namespace Targeting

/-- A tenant. Tokens name it by the subject they carry. -/
structure Merchant where
  id : String
  subject : String
  deriving DecidableEq, Repr

/-- A segment with the cached figures that it is displayed with. -/
structure Segment where
  id : String
  merchantId : String
  name : String
  kind : String
  isActive : Bool
  count : Option LooseNumber
  criteria : Option String
  calculatedAt : Option Instant
  deletedAt : Option Instant
  createdAt : Option StoredTime
  deriving DecidableEq, Repr

/-- One condition of a segment as it lies in the store: nothing about its columns has been
checked. -/
structure ConditionRow where
  segmentId : Json
  position : LooseNumber
  column : Condition.Slot → Json

structure Campaign where
  id : String
  merchantId : String
  deletedAt : Option Instant
  deriving DecidableEq, Repr

/-- A campaign's reference to a segment that it targets. -/
structure CampaignLink where
  id : String
  campaignId : String
  segmentId : String
  position : LooseNumber
  createdAt : Option StoredTime
  deriving DecidableEq, Repr

structure Store where
  merchants : List Merchant
  subscribers : List Subscriber
  segments : List Segment
  conditionRows : List ConditionRow
  campaigns : List Campaign
  links : List CampaignLink

/-- Times are ordered as their texts are. A missing one comes first. -/
def ageLe : Option StoredTime → Option StoredTime → Bool
  | none, _ => true
  | some _, none => false
  | some a, some b => a.text ≤ b.text

namespace Segment

/-- The kinds that a segment may be of. -/
def kinds : List String := ["dynamic", "static", "behavior"]

/-- Why a segment cannot be read: the store takes any kind, but only the listed ones are known. -/
def crash? (g : Segment) : Option Crash :=
  if kinds.contains g.kind then none
  else
    some ⟨"LookupError", some ("'" ++ g.kind ++ "' is not among the defined enum values. "
      ++ "Enum name: segment_type_enum. Possible values: " ++ ", ".intercalate kinds)⟩

end Segment

namespace ConditionRow

def isOf (row : ConditionRow) (segmentId : String) : Bool :=
  match row.segmentId with
  | .text s => s == segmentId
  | _ => false

/-- Reads the columns of a row as a condition. Every column is there, so none takes a default. -/
def condition (row : ConditionRow) : Reading Condition :=
  Condition.ofSource "" fun slot => (slot.columnName, some (row.column slot))

end ConditionRow

namespace Store

def empty : Store := ⟨[], [], [], [], [], []⟩

def merchantOf? (s : Store) (subject : String) : Option Merchant :=
  s.merchants.find? fun m => m.subject == subject

/-- A segment of a merchant that is not deleted. -/
def segment? (s : Store) (merchantId id : String) : Option Segment :=
  s.segments.find? fun g => g.id == id && g.merchantId == merchantId && g.deletedAt.isNone

/-- The segments of a merchant that are not deleted. -/
def segmentsOf (s : Store) (merchantId : String) : List Segment :=
  s.segments.filter fun g => g.merchantId == merchantId && g.deletedAt.isNone

/-- Oldest first; of the same age, by id. -/
def segmentLe (a b : Segment) : Bool :=
  if a.createdAt = b.createdAt then decide (a.id ≤ b.id) else ageLe a.createdAt b.createdAt

/-- The active segments of a merchant, oldest first. -/
def liveSegments (s : Store) (merchantId : String) : List Segment :=
  ((s.segmentsOf merchantId).filter (·.isActive)).mergeSort segmentLe

/-- The condition rows of a segment in authoring order. -/
def rowsOf (s : Store) (segmentId : String) : List ConditionRow :=
  (s.conditionRows.filter (·.isOf segmentId)).mergeSort fun a b => a.position.le b.position

/-- The subscribers that a formula selects, by id. -/
def selected (s : Store) (f : Formula) : List Subscriber :=
  (s.subscribers.filter f.selects).mergeSort fun a b => a.id ≤ b.id

def countOf (s : Store) (f : Formula) : Nat :=
  (s.subscribers.filter f.selects).length

/-- The active subscribers of a merchant. -/
def activeSubscribers (s : Store) (merchantId : String) : List Subscriber :=
  s.subscribers.filter fun u => u.merchantId == merchantId && u.isActive

def campaign? (s : Store) (merchantId id : String) : Option Campaign :=
  s.campaigns.find? fun c => c.id == id && c.merchantId == merchantId && c.deletedAt.isNone

/-- By position; at the same one, the older link first. -/
def linkLe (a b : CampaignLink) : Bool :=
  a.position.le b.position && (!b.position.le a.position || ageLe a.createdAt b.createdAt)

/-- The links of a campaign in targeting order. -/
def linksOf (s : Store) (campaignId : String) : List CampaignLink :=
  (s.links.filter fun l => l.campaignId == campaignId).mergeSort linkLe

/-- Replaces the segment with the same id. -/
def putSegment (s : Store) (g : Segment) : Store :=
  { s with segments := s.segments.map fun old => if old.id == g.id then g else old }

end Store

end Targeting
