import Targeting.Audience.Resolution

/-!
Recounting brings the cached figures of a merchant's live segments up to date: how many
subscribers each selects, the text of its conditions, and when that was found out. A segment that
the store fails to count keeps its figures. The work on one segment lasts at once, until one has
failed; from there on it is held back and lasts only when the recount comes to its end. Failures are
those of queries: setting a savepoint, going back to it, writing the figures and making them last
are taken to succeed.
-/

namespace Targeting

/-- What a recount says of one segment. -/
structure RecountEntry where
  segmentId : String
  segmentName : String
  count : LooseNumber
  criteria : String
  error : Option String
  deriving DecidableEq, Repr

/-- The store as others see it, the store as this recount has left it so far, and whether the
difference is held back. -/
structure RecountState where
  lasting : Store
  current : Store
  isHeld : Bool

namespace RecountState

/-- Puts new figures on a segment. -/
def put (r : RecountState) (g : Segment) : RecountState :=
  let next := r.current.putSegment g
  ⟨if r.isHeld then r.lasting else next, next, r.isHeld⟩

/-- A failed count holds back what is done from here on. -/
def hold (r : RecountState) : RecountState := ⟨r.lasting, r.current, true⟩

end RecountState

def Query.liveSegments (merchantId : String) : Query :=
  ⟨"segment lookup", .segments, [merchantId], none⟩

namespace Session

/-- The live segments of the merchant with their condition rows. -/
def loadLiveSegments (s : Session) : Traced (List (Segment × List ConditionRow)) := do
  let q := Query.liveSegments s.merchantId
  let segments ← s.ask q fun store => store.liveSegments s.merchantId
  readSegments segments
  s.askRows q.operation segments
    (segments.map fun g => (g, s.database.store.rowsOf g.id))

/-- The predicate of a stored segment. -/
def predicateOf (s : Session) (now : Moment) (rows : List ConditionRow) : Predicate :=
  .ofConditions (ConditionRow.conditions rows) s.merchantId now

/-- Events of putting the rows of a segment together. -/
def rowEvents (s : Session) (now : Moment) (g : Segment) (rows : List ConditionRow) : List Event :=
  (ConditionRow.malformed rows).map (·.event) ++ (s.predicateOf now rows).events (some g.id)

/-- The count of a segment, in a savepoint of its own. -/
def countWithin (s : Session) (segmentId : String) (p : Predicate) : Traced Nat :=
  s.ask { Query.subscribers "count" p with savepoint := some segmentId } fun store =>
    store.countOf p.formula

/-- A segment with its figures brought up to date. -/
def recounted (now : Moment) (g : Segment) (rows : List ConditionRow) (n : Nat) : Segment :=
  { g with
    count := some (.whole n)
    criteria := some (Criteria.describe (ConditionRow.conditions rows))
    calculatedAt := some now.wall }

/-- The count that a segment had before. Empty text is none. -/
def previousCount (g : Segment) : LooseNumber :=
  match g.count with
  | none | some (.text "") => .whole 0
  | some n => n

/-- Recounts segments one after the other, all as of one time. A failure that is not of the store
ends the recount. -/
def recountEach (s : Session) (now : Moment) (r : RecountState) :
    List (Segment × List ConditionRow) → RecountState × Traced (List RecountEntry)
  | [] => (r, .pure [])
  | (g, rows) :: rest =>
      let criteria := Criteria.describe (ConditionRow.conditions rows)
      let counted := s.countWithin g.id (s.predicateOf now rows)
      let events := s.rowEvents now g rows ++ counted.events
      let continued (r : RecountState) (more : List Event) (entry : RecountEntry) :=
        let (final, later) := s.recountEach now r rest
        (final, (⟨events ++ more ++ later.events, later.outcome.map (entry :: ·)⟩ :
          Traced (List RecountEntry)))
      match counted.outcome with
      | .ok n =>
          continued (r.put (recounted now g rows n)) [] ⟨g.id, g.name, .whole n, criteria, none⟩
      | .error f =>
          if f.isOfStore then
            continued r.hold [.recountFailed g.id f.message]
              ⟨g.id, g.name, previousCount g, criteria, some f.message⟩
          else (r, ⟨events, .error f⟩)

/-- Recounts the live segments of the merchant: the store afterwards, and what was found. The clock
is read once the segments are loaded. -/
def recount (s : Session) : Store × Traced (List RecountEntry) :=
  let store := s.database.store
  let loaded : Traced (List (Segment × List ConditionRow) × Moment) := do
    let segments ← s.loadLiveSegments
    pure (segments, ← s.readClock)
  match loaded.outcome with
  | .error f => (store, ⟨loaded.events, .error f⟩)
  | .ok (segments, now) =>
      let (r, found) := s.recountEach now ⟨store, store, false⟩ segments
      match found.outcome with
      | .error f => (r.lasting, ⟨loaded.events ++ found.events, .error f⟩)
      | .ok entries =>
          (r.current, ⟨loaded.events ++ found.events
            ++ [.recounted entries.length s.merchantId], .ok entries⟩)

end Session

end Targeting
