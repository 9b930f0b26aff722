import Targeting.Audience.Estimate

/-!
The present members of one segment. Condition rows that cannot be read are set aside before the
rest of them are put together.
-/

namespace Targeting

/-- A condition row that is not a condition. -/
structure MalformedRow where
  row : ConditionRow
  issues : List Issue

namespace MalformedRow

def id (m : MalformedRow) : Json := m.row.column .id

def category (m : MalformedRow) : Json := m.row.column .category

def event (m : MalformedRow) : Event := .rowMalformed m.row.segmentId m.id m.category

def reason (m : MalformedRow) : String :=
  "stored condition is malformed (" ++ Number.digitText m.issues.length ++ " errors)"

end MalformedRow

namespace ConditionRow

/-- The conditions of a list of rows. -/
def conditions (rows : List ConditionRow) : List Condition :=
  rows.filterMap fun row => row.condition.toOption

def malformed (rows : List ConditionRow) : List MalformedRow :=
  rows.filterMap fun row =>
    match row.condition with
    | .ok _ => none
    | .error issues => some ⟨row, issues⟩

end ConditionRow

structure SegmentAudience where
  segmentId : String
  segmentName : String
  isActive : Bool
  members : List Subscriber
  malformed : List MalformedRow
  rejected : List Rejection

namespace SegmentAudience

def subscriberIds (a : SegmentAudience) : List String := a.members.map (·.id)

/-- The delivery tokens of the members that have one. -/
def tokens (a : SegmentAudience) : List String :=
  a.members.filterMap fun u => nonEmpty? u.token

end SegmentAudience

def Query.segmentById (segmentId merchantId : String) : Query :=
  ⟨"segment lookup", .segments, [segmentId, merchantId], none⟩

namespace Session

/-- A segment of the merchant with its condition rows. -/
def loadSegment (s : Session) (segmentId : String) : Traced (Segment × List ConditionRow) := do
  let q := Query.segmentById segmentId s.merchantId
  let found ← s.ask q fun store => store.segment? s.merchantId segmentId
  readSegments found.toList
  let rows ← s.askRows q.operation found.toList (s.database.store.rowsOf segmentId)
  match found with
  | none => .fail (.segmentNotFound segmentId)
  | some g => pure (g, rows)

/-- The members of a segment. An inactive segment has none, whatever its conditions say. -/
def resolveSegment (s : Session) (segmentId : String) : Traced SegmentAudience := do
  let (g, rows) ← s.loadSegment segmentId
  if g.isActive then
    let malformed := ConditionRow.malformed rows
    Traced.tell (malformed.map (·.event))
    let p ← s.predicate (ConditionRow.conditions rows)
    Traced.tell (p.events (some g.id))
    let members ← s.fetch p
    let audience : SegmentAudience := ⟨g.id, g.name, true, members, malformed, p.skipped⟩
    Traced.tell [.segmentResolved g.id members.length audience.tokens.length]
    pure audience
  else
    Traced.tell [.segmentInactive g.id]
    pure ⟨g.id, g.name, false, [], [], []⟩

end Session

end Targeting
