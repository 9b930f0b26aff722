import Targeting.Store.Database
import Targeting.Store.Relation

/-!
Changes of the store by the columns of its tables. Rows are inserted all together or not at all: a
single one that does not fit its columns, lacks a required value or repeats a key stops them all. A
row that is changed is held to the same rules.
-/

namespace Targeting

/-- A row to be inserted, by the columns that it is given. -/
structure NewRow where
  table : Table
  columns : Changes

namespace Table

/-- A required value is missing, or a key is there twice. -/
def violation : Crash := .driver "IntegrityError"

/-- Applies what is done to the values of a kind to all given columns. Columns that the table lacks
stay as they are. -/
def mapColumns (t : Table) (f : ColumnKind → Json → Except Crash Json) (given : Changes) :
    Except Crash Changes :=
  given.mapM fun (name, value) =>
    match t.column? name with
    | some c => (f c.kind value).map (name, ·)
    | none => .ok (name, value)

/-- A row of a table that notes when it was changed changes even when nothing is given for it. -/
def notesChanges (t : Table) : Bool := (t.column? "updated_at").isSome

/-- A required column that is given nothing. -/
def hasGap (t : Table) (given : Changes) : Bool :=
  given.any fun (name, value) => value.isNull && (t.column? name).any (·.isRequired)

/-- Fills a column that is given nothing. The clock is the store's own. -/
def filledWith (freshId : String) (now : Moment) (c : Column) (given : Option Json) : Json :=
  match given.getD .null, c.filling with
  | .null, .value v => v
  | .null, .freshId => .text freshId
  | .null, .insertionTime => .text now.filledText
  | value, _ => value

/-- All columns of a row that is given some of them. -/
def filled (t : Table) (freshId : String) (now : Moment) (given : Changes) : Changes :=
  t.columns.map fun c => (c.name, filledWith freshId now c (Json.lookup? given c.name))

/-- Tables in the order in which rows are inserted into them. -/
def insertionOrder : List Table :=
  [.campaigns, .merchants, .segments, .subscribers, .campaignSegments, .segmentConditions]

end Table

namespace Database

/-- An id that no row of a table has. -/
def freshId (d : Database) (t : Table) : String :=
  let ids := d.store.ids t
  let candidates := (List.range (ids.length + 1)).map fun n => "row-" ++ Number.digitText n
  (candidates.find? (!ids.contains ·)).getD ""

def requireTable (d : Database) (t : Table) : Except Crash Unit :=
  if d.lacks t then .error (.driver absenceLabel) else .ok ()

def requireKeys (d : Database) (t : Table) : Except Crash Unit :=
  if d.store.WellKeyed t then .ok () else .error Table.violation

/-- Puts a row that has been taken in behind those of its table. -/
def insertRow (now : Moment) (t : Table) (d : Database) (given : Changes) :
    Except Crash Database := do
  let columns ← t.mapColumns ColumnKind.keep (t.filled (d.freshId t) now given)
  if t.hasGap columns then throw Table.violation
  pure { d with store := d.store.insert t columns }

/-- Inserts the rows that belong to one table. -/
def insertInto (now : Moment) (rows : List NewRow) (d : Database) (t : Table) :
    Except Crash Database := do
  let own := (rows.filter (·.table = t)).map (·.columns)
  if own.isEmpty then return d
  let accepted ← own.mapM (t.mapColumns ColumnKind.accept)
  d.requireTable t
  let d ← accepted.foldlM (insertRow now t) d
  d.requireKeys t
  pure d

/-- Inserts rows at a time, all or none. -/
def insert (d : Database) (now : Moment) (rows : List NewRow) : Except Crash Database := do
  let rows ← rows.mapM fun row => do
    let columns ← row.table.mapColumns ColumnKind.readTime row.columns
    pure ⟨row.table, ← row.table.newRow columns⟩
  Table.insertionOrder.foldlM (insertInto now rows) d

/-- The text of an id that a row is looked for with; nothing has no row. -/
def searched (id : Json) : Except Crash (Option String) :=
  (ColumnKind.text.keep id).map (·.text?)

/-- How many rows have an id. -/
def rowCount (d : Database) (t : Table) (id : Option String) : Nat :=
  match id with
  | some id => (d.store.ids t).count id
  | none => 0

/-- Changes columns of the row with an id, and tells how many rows there are. There has to be
something to change, and no name of other rows can be put into a row. -/
def update (d : Database) (t : Table) (id : Json) (changes : Changes) :
    Except Crash (Database × Nat) := do
  let changes ← t.mapColumns ColumnKind.readTime changes
  let (relations, changes) := changes.partition fun (name, _) => (t.relation? name).isSome
  if changes.any fun (name, _) => (t.column? name).isNone then throw (.driver "CompileError")
  if !relations.isEmpty then throw ColumnKind.misfit
  if changes.isEmpty && !t.notesChanges then throw (.driver absenceLabel)
  let changes ← t.mapColumns ColumnKind.accept changes
  d.requireTable t
  let changes ← t.mapColumns ColumnKind.keep changes
  let id ← searched id
  let n := d.rowCount t id
  if n = 0 then return (d, 0)
  if t.hasGap changes then throw Table.violation
  let d := { d with store := d.store.update t (id.getD "") changes }
  d.requireKeys t
  pure (d, n)

/-- Removes the row with an id, and tells how many rows there were. -/
def delete (d : Database) (t : Table) (id : Json) : Except Crash (Database × Nat) := do
  d.requireTable t
  let id ← searched id
  let n := d.rowCount t id
  if n = 0 then return (d, 0)
  pure ({ d with store := d.store.delete t (id.getD "") }, n)

/-- All segments by id, where every one of them can be read. -/
def segmentsById (d : Database) : Except Crash (List Segment) := do
  d.requireTable .segments
  let segments := d.store.segments.mergeSort fun a b => a.id ≤ b.id
  match segments.findSome? (·.crash?) with
  | some c => throw c
  | none => pure segments

end Database

end Targeting
