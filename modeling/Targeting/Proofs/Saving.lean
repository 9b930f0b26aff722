import Targeting.Proofs.CarriedTexts
import Targeting.Proofs.ReadBack
import Targeting.Store.Change

/-!
What becomes of a condition that is saved. A new row passes through its columns three times before
it is in the store: as it is read, as it is taken in, and as it is kept. A condition passes through
them as it is, but for a number that the store has no form for and for texts without bytes, which
stop the row.
-/

namespace Targeting

open Number Text

namespace Number.Binary64

variable {x : Binary64}

/-- What the store keeps of a number: nothing of NaN, and zero without its sign. -/
def kept? (x : Binary64) : Option Binary64 :=
  if x = .nan then none else if x.isZero then some .zero else some x

theorem kept?_nan : kept? .nan = none := rfl

theorem kept?_of_isZero (h : x.isZero = true) : x.kept? = some .zero := by
  have hnan : x ≠ .nan := by
    rintro rfl
    cases h
  rw [kept?, if_neg hnan, if_pos h]

theorem kept?_eq_some (hnan : x ≠ .nan) (hzero : x.isZero = true → x = .zero) :
    x.kept? = some x := by
  by_cases h : x.isZero = true
  · rw [kept?_of_isZero h, hzero h]
  · rw [kept?, if_neg hnan, if_neg h]

end Number.Binary64

namespace Table

variable {α : Type} {t : Table} {f : ColumnKind → Json → Except Crash Json} {name : α → String}
  {value kept : α → Json}

theorem mapColumns_map {items : List α} (h : ∀ a ∈ items, ∃ c, t.column? (name a) = some c ∧
    f c.kind (value a) = .ok (kept a)) :
    t.mapColumns f (items.map fun a => (name a, value a)) =
      .ok (items.map fun a => (name a, kept a)) := by
  induction items with
  | nil => rfl
  | cons a items ih =>
      obtain ⟨c, hcolumn, hkept⟩ := h a (by simp)
      have hrest := ih fun b hb => h b (by simp [hb])
      unfold mapColumns at hrest ⊢
      rw [List.map_cons, List.mapM_cons, hrest]
      simp [hcolumn, hkept, Except.map, bind, Except.bind, pure, Except.pure]

/-- One value that cannot be taken stops the row. -/
theorem mapColumns_error {items : List α} {a : α} {c : Column} {e : Crash} (ha : a ∈ items)
    (hcolumn : t.column? (name a) = some c) (herror : f c.kind (value a) = .error e) :
    ∃ e, t.mapColumns f (items.map fun a => (name a, value a)) = .error e := by
  induction items with
  | nil => cases ha
  | cons first items ih =>
      unfold mapColumns at ih ⊢
      rw [List.map_cons, List.mapM_cons]
      rcases List.mem_cons.mp ha with rfl | ha
      · exact ⟨e, by simp [hcolumn, herror, Except.map, bind, Except.bind]⟩
      · obtain ⟨later, hlater⟩ := ih ha
        rw [hlater]
        cases hfirst : t.column? (name first) with
        | none => exact ⟨later, by simp [hfirst, bind, Except.bind]⟩
        | some own =>
            cases htaken : f own.kind (value first) with
            | error e => exact ⟨e, by simp [hfirst, htaken, Except.map, bind, Except.bind]⟩
            | ok _ => exact ⟨later, by simp [hfirst, htaken, Except.map, bind, Except.bind]⟩

theorem forM_eq_ok {given : Changes} {check : String × Json → Except Crash Unit}
    (h : ∀ field ∈ given, check field = .ok ()) : given.forM check = .ok () := by
  induction given with
  | nil => rfl
  | cons field given ih =>
      have hrest := ih fun other hother => h other (by simp [hother])
      change (do check field; given.forM check) = .ok ()
      rw [h field (by simp), hrest]
      rfl

/-- A row that is given columns of its table alone. -/
theorem newRow_eq_ok {given : Changes} (h : ∀ field ∈ given,
    (t.column? field.1).isSome = true ∧ t.relation? field.1 = none) :
    t.newRow given = .ok given := by
  have hown : t.ownColumns given = given := by
    unfold ownColumns
    dsimp only
    generalize hcut : given.filterMap _ = cut
    have hnone : cut = [] := by
      rw [← hcut, List.filterMap_eq_nil_iff]
      intro field hfield
      rw [(h field hfield).2]
    rw [hnone, List.map_nil, List.append_nil, List.filter_eq_self]
    intro field hfield
    simp [(h field hfield).1]
  unfold newRow
  rw [forM_eq_ok fun field hfield => by simp [checkGiven, (h field hfield).1], hown]
  rfl

end Table

namespace Condition

/-- A column of the rows that hold conditions. -/
inductive Cell where
  | owner
  | position
  | slot (s : Slot)
  | created

namespace Cell

def name : Cell → String
  | .owner => "segment_id"
  | .position => "order_index"
  | .slot s => s.columnName
  | .created => "created_at"

/-- The columns of the table, as they come in it. -/
def all : List Cell :=
  [.slot .id, .owner, .position, .slot .kind, .slot .category, .slot .operator, .slot .number,
    .slot .date, .slot .value, .slot .unit, .slot .country, .slot .region, .slot .city,
    .slot .join, .created]

end Cell

/-- What a condition holds, slot by slot, with its number written as the given value. -/
def slots (c : Condition) (number : Json) : Slot → Json
  | .id => .text c.id
  | .kind => .text c.kind.name
  | .category => .text c.category
  | .operator => .text c.operator
  | .value => .ofText? c.value
  | .number => number
  | .date => .ofText? (c.date.map Date.text)
  | .unit => .ofText? c.unit
  | .country => .ofText? c.country
  | .region => .ofText? c.region
  | .city => .ofText? c.city
  | .join => .ofText? (c.join.map Join.name)

/-- What a new row is given for a condition of a segment. The store sees to the rest. -/
def Cell.given : List Cell := [.owner, .position] ++ Slot.all.map .slot

/-- The values of a row, cell by cell. -/
def cellValue (segmentId : String) (position : Int) (created : Json) (value : Slot → Json) :
    Cell → Json
  | .owner => .text segmentId
  | .position => .integer position
  | .slot s => value s
  | .created => created

/-- The number of a condition as it is. -/
def numberValue (c : Condition) : Json := (c.number.map .real).getD .null

/-- The row in which a condition is saved, at a position among those of a segment. -/
def newRow (c : Condition) (segmentId : String) (position : Int) : NewRow where
  table := .segmentConditions
  columns := Cell.given.map fun cell =>
    (cell.name, cellValue segmentId position .null (c.slots c.numberValue) cell)

/-- What is kept of a condition. -/
def kept (c : Condition) : Condition := { c with number := c.number.bind Binary64.kept? }

theorem kept_eq_self {c : Condition} (h : ∀ x, c.number = some x → x.kept? = some x) :
    c.kept = c := by
  obtain ⟨_, _, _, _, _, number, _, _, _, _, _, _⟩ := c
  cases number with
  | none => rfl
  | some x => simp [kept, h x rfl]

/-- What was kept once is kept as it is. -/
theorem kept_kept (c : Condition) : c.kept.kept = c.kept := by
  apply kept_eq_self
  intro x hx
  obtain ⟨y, -, hy⟩ := Option.bind_eq_some_iff.mp hx
  by_cases hzero : y.isZero = true
  · rw [Binary64.kept?_of_isZero hzero] at hy
    cases hy
    rfl
  · have hnan : y ≠ .nan := by
      rintro rfl
      cases hy
    have hself := Binary64.kept?_eq_some hnan fun h => absurd h hzero
    obtain rfl := Option.some.inj (hself.symm.trans hy)
    exact hself

/-- The texts that a row holds of a condition and that may be without bytes. -/
def rowTexts (c : Condition) : List String :=
  [c.id, c.category, c.operator] ++ [c.value, c.unit, c.country, c.region, c.city].reduceOption

/-- The kind of the column for a cell. -/
def Cell.kind : Cell → ColumnKind
  | .position => .whole
  | .slot .number => .real
  | .slot .date => .date
  | .created => .time
  | .owner | .slot _ => .text

theorem Cell.column?_name (cell : Cell) :
    ∃ column, Table.segmentConditions.column? cell.name = some column ∧
      column.kind = cell.kind := by
  cases cell with
  | owner | position | created => exact ⟨_, rfl, rfl⟩
  | slot s => cases s <;> exact ⟨_, rfl, rfl⟩

variable {c : Condition} {segmentId : String} {position : Int} {created : Json}
  {value kept : Slot → Json} {f : ColumnKind → Json → Except Crash Json}

/-- What is done to the values of a row is done cell by cell. -/
theorem mapColumns_cells {cells : List Cell} {value kept : Cell → Json}
    (h : ∀ cell ∈ cells, f cell.kind (value cell) = .ok (kept cell)) :
    Table.segmentConditions.mapColumns f (cells.map fun cell => (cell.name, value cell)) =
      .ok (cells.map fun cell => (cell.name, kept cell)) := by
  apply Table.mapColumns_map
  intro cell hcell
  obtain ⟨column, hcolumn, hkind⟩ := cell.column?_name
  exact ⟨column, hcolumn, hkind ▸ h cell hcell⟩

theorem readTime_cell (c : Condition) {cell : Cell} (hcell : cell ≠ .created) :
    ColumnKind.readTime cell.kind
        (cellValue segmentId position created (c.slots c.numberValue) cell) =
      .ok (cellValue segmentId position created (c.slots c.numberValue) cell) := by
  cases cell with
  | created => contradiction
  | owner | position => rfl
  | slot s =>
      cases s with
      | date =>
          cases hdate : c.date with
          | none => simp [cellValue, slots, hdate, Json.ofText?, Cell.kind, ColumnKind.readTime]
          | some d =>
              simp [cellValue, slots, hdate, Json.ofText?, Cell.kind, ColumnKind.readTime,
                d.read_text, Except.mapError, Except.map]
      | _ => rfl

theorem accept_cell (c : Condition) {cell : Cell} (hcell : cell ≠ .created) :
    ColumnKind.accept cell.kind
        (cellValue segmentId position created (c.slots c.numberValue) cell) =
      .ok (cellValue segmentId position created (c.slots c.numberValue) cell) := by
  have htext : ∀ {kind} (s : Option String), kind = .text ∨ kind = .date →
      ColumnKind.accept kind (.ofText? s) = .ok (.ofText? s) := by
    rintro kind (_ | s) (rfl | rfl)
    all_goals rfl
  cases cell with
  | created => contradiction
  | owner | position => rfl
  | slot s =>
      cases s with
      | id | kind | category | operator => rfl
      | number =>
          cases hnumber : c.number with
          | none => simp [cellValue, slots, numberValue, hnumber, ColumnKind.accept]
          | some x =>
              simp [cellValue, slots, numberValue, hnumber, ColumnKind.accept, ColumnKind.real?,
                Json.amount?, Amount.toReal?, Cell.kind]
      | date => exact htext _ (.inr rfl)
      | _ => exact htext _ (.inl rfl)

/-- What the cells of a condition keep. -/
theorem keep_cell {c : Condition} (howner : isEncodable segmentId = true)
    (hposition : ColumnKind.storable position = .ok position)
    (hcreated : ColumnKind.keep .time created = .ok created)
    (htexts : ∀ text ∈ c.rowTexts, isEncodable text = true) (cell : Cell) :
    ColumnKind.keep cell.kind
        (cellValue segmentId position created (c.slots c.numberValue) cell) =
      .ok (cellValue segmentId position created (c.kept.slots c.kept.numberValue) cell) := by
  have htext : ∀ {kind} (s : String), kind = .text ∨ kind = .date → isEncodable s = true →
      ColumnKind.keep kind (.text s) = .ok (.text s) := by
    rintro kind s (rfl | rfl) hs
    all_goals
      have hplain := (Crash.ofText?_eq_none_iff s).mpr hs
      simp [ColumnKind.keep, ColumnKind.handOver, hplain, Except.map]
  have hoptional : ∀ {kind} (s : Option String), kind = .text ∨ kind = .date →
      (∀ text, s = some text → isEncodable text = true) →
      ColumnKind.keep kind (.ofText? s) = .ok (.ofText? s) := by
    rintro kind (_ | s) hkind hs
    · rcases hkind with rfl | rfl <;> rfl
    · exact htext s hkind (hs s rfl)
  cases cell with
  | created => exact hcreated
  | owner => exact htext _ (.inl rfl) howner
  | position => simp [cellValue, Cell.kind, ColumnKind.keep, ColumnKind.handOver, hposition,
      Except.map]
  | slot s =>
      cases s with
      | id | category | operator => exact htext _ (.inl rfl) (htexts _ (by simp [rowTexts]))
      | kind => exact htext _ (.inl rfl) (by cases c.kind <;> decide)
      | number =>
          cases hnumber : c.number with
          | none => simp [cellValue, slots, numberValue, Condition.kept, hnumber, Cell.kind,
              ColumnKind.keep, ColumnKind.handOver, Except.map]
          | some x =>
              simp only [cellValue, slots, numberValue, Condition.kept, hnumber, Cell.kind,
                ColumnKind.keep, ColumnKind.handOver, Except.map, Option.map_some,
                Option.getD_some, Option.bind_some, Binary64.kept?]
              split_ifs <;> rfl
      | date =>
          refine hoptional _ (.inr rfl) fun text htext => ?_
          obtain ⟨d, -, rfl⟩ := Option.map_eq_some_iff.mp htext
          exact isEncodable_of_ascii d.ascii_text
      | join =>
          refine hoptional _ (.inl rfl) fun text htext => ?_
          obtain ⟨j, -, rfl⟩ := Option.map_eq_some_iff.mp htext
          cases j <;> decide
      | value | unit | country | region | city =>
          refine hoptional _ (.inl rfl) fun text htext => htexts _ ?_
          simp [rowTexts, List.reduceOption_mem_iff, htext]

theorem filledWith_nothing (freshId : String) (now : Moment) (name : String) (kind : ColumnKind)
    (isRequired : Bool) (given : Option Json) :
    Table.filledWith freshId now ⟨name, kind, isRequired, .nothing⟩ given = given.getD .null := by
  unfold Table.filledWith
  cases given.getD .null <;> rfl

/-- The store fills in when the row came to be, and nothing else. -/
theorem filled_newRow (c : Condition) (segmentId : String) (position : Int) (freshId : String)
    (now : Moment) : Table.segmentConditions.filled freshId now
        (c.newRow segmentId position).columns =
      Cell.all.map fun cell => (cell.name,
        cellValue segmentId position (.text now.filledText) (c.slots c.numberValue) cell) := by
  have hcolumns : Table.segmentConditions.columns = Cell.all.map fun cell =>
      (Table.segmentConditions.column? cell.name).getD Column.key := rfl
  unfold Table.filled
  rw [hcolumns, List.map_map]
  apply List.map_congr_left
  intro cell _
  cases cell with
  | owner | position | created => rfl
  | slot s =>
      cases s with
      | id | kind | category | operator => rfl
      | _ => exact congrArg (Prod.mk _) (filledWith_nothing freshId now _ _ _ (some _))

/-- All that a row must have is there. -/
theorem hasGap_cells (c : Condition) (segmentId : String) (position : Int) (created number : Json) :
    Table.segmentConditions.hasGap (Cell.all.map fun cell =>
      (cell.name, cellValue segmentId position created (c.slots number) cell)) = false := by
  have hoptional : ∀ {cell : Cell} {v : Json},
      (Table.segmentConditions.column? cell.name).any (·.isRequired) = false →
      (v.isNull && (Table.segmentConditions.column? cell.name).any (·.isRequired)) = false := by
    intro cell v h
    rw [h, Bool.and_false]
  unfold Table.hasGap
  rw [List.any_map, List.any_eq_false]
  intro cell _
  rw [Bool.not_eq_true]
  cases cell with
  | owner | position => rfl
  | created => exact hoptional rfl
  | slot s =>
      cases s with
      | id | kind | category | operator => rfl
      | _ => exact hoptional rfl

/-- The cells are set one by one, and make up the row. -/
theorem setAll_cells (segmentId : String) (position : Int) (created : Json) (value : Slot → Json) :
    setAll ConditionRow.set
        (Cell.all.map fun cell => (cell.name, cellValue segmentId position created value cell))
        .blank =
      ⟨.text segmentId, .whole position, value⟩ := by
  have hcolumn : (setAll ConditionRow.set
      (Cell.all.map fun cell => (cell.name, cellValue segmentId position created value cell))
        .blank).column = value := by
    funext slot
    cases slot <;> rfl
  generalize hrow : setAll ConditionRow.set
    (Cell.all.map fun cell => (cell.name, cellValue segmentId position created value cell))
      .blank = row at hcolumn ⊢
  have howner : row.segmentId = .text segmentId := by
    rw [← hrow]
    rfl
  have hposition : row.position = .whole position := by
    rw [← hrow]
    rfl
  obtain ⟨_, _, _⟩ := row
  cases howner
  cases hposition
  cases hcolumn
  rfl

end Condition

namespace Database

open Condition

variable {d : Database} {now : Moment} {c : Condition} {segmentId : String} {position : Int}

/-- The database with one more row of conditions. -/
def withConditionRow (d : Database) (row : ConditionRow) : Database :=
  { d with store := { d.store with conditionRows := d.store.conditionRows ++ [row] } }

theorem ne_created_of_given {cell : Cell} (h : cell ∈ Cell.given) : cell ≠ .created := by
  rintro rfl
  simp [Cell.given] at h

theorem readTime_newRow (c : Condition) (segmentId : String) (position : Int) :
    Table.segmentConditions.mapColumns ColumnKind.readTime (c.newRow segmentId position).columns =
      .ok (c.newRow segmentId position).columns :=
  mapColumns_cells fun _ hcell => readTime_cell c (ne_created_of_given hcell)

theorem accept_newRow (c : Condition) (segmentId : String) (position : Int) :
    Table.segmentConditions.mapColumns ColumnKind.accept (c.newRow segmentId position).columns =
      .ok (c.newRow segmentId position).columns :=
  mapColumns_cells fun _ hcell => accept_cell c (ne_created_of_given hcell)

theorem newRow_newRow (c : Condition) (segmentId : String) (position : Int) :
    Table.segmentConditions.newRow (c.newRow segmentId position).columns =
      .ok (c.newRow segmentId position).columns := by
  apply Table.newRow_eq_ok
  intro field hfield
  obtain ⟨cell, -, rfl⟩ := List.mem_map.mp hfield
  obtain ⟨column, hcolumn, -⟩ := cell.column?_name
  refine ⟨Option.isSome_iff_exists.mpr ⟨column, hcolumn⟩, ?_⟩
  cases cell with
  | owner | position | created => rfl
  | slot s => cases s <;> rfl

/-- What is left of an insertion once the row is taken in. -/
theorem insert_newRow_eq (d : Database) (now : Moment) (c : Condition) (segmentId : String)
    (position : Int) (htable : d.lacks .segmentConditions = false) :
    d.insert now [c.newRow segmentId position] =
      (d.insertRow now .segmentConditions (c.newRow segmentId position).columns).bind fun d =>
        (d.requireKeys .segmentConditions).map fun _ => d := by
  have hothers : ∀ {t : Table}, t ≠ .segmentConditions →
      d.insertInto now [c.newRow segmentId position] t = .ok d := by
    intro t ht
    have hnone : [c.newRow segmentId position].filter (fun row => decide (row.table = t)) = [] := by
      simp [newRow, ht.symm]
    simp [insertInto, hnone, pure, Except.pure]
  have hown : d.insertInto now [c.newRow segmentId position] .segmentConditions =
      (d.insertRow now .segmentConditions (c.newRow segmentId position).columns).bind fun d =>
        (d.requireKeys .segmentConditions).map fun _ => d := by
    have hall : [c.newRow segmentId position].filter (fun row =>
        decide (row.table = .segmentConditions)) = [c.newRow segmentId position] := rfl
    simp only [insertInto, hall, List.map_cons, List.map_nil, List.mapM_cons, List.mapM_nil,
      accept_newRow, requireTable, htable]
    simp only [bind, Except.bind, pure, Except.pure, List.isEmpty_cons, Bool.false_eq_true,
      if_false, List.foldlM_cons, List.foldlM_nil]
    cases d.insertRow now .segmentConditions (c.newRow segmentId position).columns with
    | error e => rfl
    | ok after => cases after.requireKeys .segmentConditions <;> rfl
  have hrow : [c.newRow segmentId position].mapM (fun row => do
      let columns ← row.table.mapColumns ColumnKind.readTime row.columns
      pure ⟨row.table, ← row.table.newRow columns⟩) =
        (.ok [c.newRow segmentId position] : Except Crash (List NewRow)) := by
    have htableName : (c.newRow segmentId position).table = .segmentConditions := rfl
    simp [List.mapM_cons, htableName, readTime_newRow, newRow_newRow, bind, Except.bind, pure,
      Except.pure]
    rfl
  unfold insert
  rw [hrow]
  simp only [Table.insertionOrder, bind, Except.bind, List.foldlM_cons, List.foldlM_nil, hothers,
    ne_eq, reduceCtorEq, not_false_eq_true, hown]
  cases d.insertRow now .segmentConditions (c.newRow segmentId position).columns with
  | error e => rfl
  | ok after =>
      dsimp only
      cases after.requireKeys .segmentConditions <;> rfl

/-- Nothing but the condition itself can keep its row out of the database: the table is there, the
row has an id of its own, and what else is in the row can be kept. -/
structure HasRoomFor (d : Database) (now : Moment) (c : Condition) (segmentId : String)
    (position : Int) : Prop where
  table : d.lacks .segmentConditions = false
  keys : d.store.WellKeyed .segmentConditions
  fresh : c.id ∉ d.store.ids .segmentConditions
  owner : isEncodable segmentId = true
  position : ColumnKind.storable position = .ok position
  clock : now.instant < calendarEnd

/-- Where no row is yet, there is room for every condition. -/
theorem hasRoomFor_empty (c : Condition) (hclock : now.instant < calendarEnd)
    (howner : isEncodable segmentId = true)
    (hposition : ColumnKind.storable position = .ok position) :
    HasRoomFor ⟨.empty, [], true, none⟩ now c segmentId position where
  table := rfl
  keys := ⟨List.nodup_nil, List.nodup_nil⟩
  fresh := List.not_mem_nil
  owner := howner
  position := hposition
  clock := hclock

/-- A condition whose texts have bytes is put in, and what is kept of it is what the new row
holds. -/
theorem insert_newRow (hroom : d.HasRoomFor now c segmentId position)
    (htexts : ∀ text ∈ c.rowTexts, isEncodable text = true) :
    d.insert now [c.newRow segmentId position] = .ok (d.withConditionRow
      ⟨.text segmentId, .whole position, c.kept.slots c.kept.numberValue⟩) := by
  have hfilled : ColumnKind.keep .time (.text now.filledText) = .ok (.text now.filledText) := by
    have hsecond : now.instant / microsPerSecond < calendarSeconds :=
      Nat.div_lt_of_lt_mul hroom.clock
    obtain ⟨e, he, -⟩ := exists_date_of_second hsecond
    have hascii := Moment.ascii_storedText he (m := none) (by simp)
    have hplain := (Crash.ofText?_eq_none_iff _).mpr (isEncodable_of_ascii hascii)
    simp [ColumnKind.keep, ColumnKind.handOver, Moment.filledText, hplain, Except.map]
  have hrow : d.insertRow now .segmentConditions (c.newRow segmentId position).columns =
      .ok (d.withConditionRow
        ⟨.text segmentId, .whole position, c.kept.slots c.kept.numberValue⟩) := by
    unfold insertRow
    rw [filled_newRow, mapColumns_cells fun cell _ =>
      keep_cell hroom.owner hroom.position hfilled htexts cell]
    simp [bind, Except.bind, hasGap_cells, Store.insert, setAll_cells, pure, Except.pure,
      withConditionRow]
  have hkeyed : (d.withConditionRow ⟨.text segmentId, .whole position,
      c.kept.slots c.kept.numberValue⟩).store.WellKeyed .segmentConditions := by
    refine ⟨?_, List.nodup_nil⟩
    simp only [Store.ids, withConditionRow, List.map_append]
    rw [List.perm_append_comm.nodup_iff]
    exact List.nodup_cons.mpr ⟨hroom.fresh, hroom.keys.1⟩
  rw [insert_newRow_eq d now c segmentId position hroom.table, hrow]
  simp [Except.bind, requireKeys, hkeyed, Except.map]

theorem exists_cell_of_text {text : String} (htext : text ∈ c.rowTexts) :
    ∃ slot, (Cell.slot slot).kind = .text ∧ c.slots c.numberValue slot = .text text := by
  simp only [rowTexts, List.mem_append, List.mem_cons, List.not_mem_nil, or_false,
    List.reduceOption_mem_iff] at htext
  rcases htext with (rfl | rfl | rfl) | h | h | h | h | h
  · exact ⟨.id, rfl, rfl⟩
  · exact ⟨.category, rfl, rfl⟩
  · exact ⟨.operator, rfl, rfl⟩
  · exact ⟨.value, rfl, by simp [slots, ← h, Json.ofText?]⟩
  · exact ⟨.unit, rfl, by simp [slots, ← h, Json.ofText?]⟩
  · exact ⟨.country, rfl, by simp [slots, ← h, Json.ofText?]⟩
  · exact ⟨.region, rfl, by simp [slots, ← h, Json.ofText?]⟩
  · exact ⟨.city, rfl, by simp [slots, ← h, Json.ofText?]⟩

/-- A text without bytes stops the row. -/
theorem insert_newRow_error (hroom : d.HasRoomFor now c segmentId position) {text : String}
    (htext : text ∈ c.rowTexts) (hbytes : isEncodable text = false) :
    ∃ e, d.insert now [c.newRow segmentId position] = .error e := by
  obtain ⟨e, he⟩ : ∃ e, Crash.ofText? text = some e := by
    rw [← Option.ne_none_iff_exists', ne_eq, Crash.ofText?_eq_none_iff, hbytes]
    exact Bool.false_ne_true
  obtain ⟨slot, hkind, hvalue⟩ := exists_cell_of_text htext
  obtain ⟨column, hcolumn, hcolumnKind⟩ := (Cell.slot slot).column?_name
  have hkeep : ColumnKind.keep column.kind (cellValue segmentId position (.text now.filledText)
      (c.slots c.numberValue) (.slot slot)) = .error e := by
    rw [hcolumnKind, hkind, cellValue, hvalue]
    simp [ColumnKind.keep, ColumnKind.handOver, he, Except.map]
  have hmem : Cell.slot slot ∈ Cell.all := by
    cases slot <;> simp [Cell.all]
  obtain ⟨e', he'⟩ := Table.mapColumns_error hmem hcolumn hkeep
  refine ⟨e', ?_⟩
  rw [insert_newRow_eq d now c segmentId position hroom.table, insertRow, filled_newRow, he']
  rfl

end Database

end Targeting
