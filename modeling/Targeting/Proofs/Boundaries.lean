import Targeting.Proofs.Slots
import Targeting.Proofs.Windows
import Targeting.Proofs.WrittenDates

/-!
Conditions before and after a date. A message may give the date alone or with a time behind it; the
condition is read as if the date were set into what is read without it. The boundary is the first
instant of the date in universal time. A column that shows this instant to the microsecond is on
neither side, and one that the store has filled in at this instant is before it.
-/

namespace Targeting

open Number

/-- The side of the beginning of a date that an operator asks for. -/
def Operator.boundarySide? : Operator → Option TimeRelation
  | .before => some .before
  | .after => some .after
  | _ => none

namespace Condition

variable {d : Date} {freshId : String} {fields : List (String × Json)}

/-- A condition whose boundary is the beginning of a date. -/
def on (c : Condition) (d : Date) : Condition :=
  { c with date := some d }

/-- A date that is written in a message takes its slot, and no other slot is read differently. -/
theorem ofJson_of_date (freshId : String) {s : String} (hwritten : d.IsWrittenAs s)
    (hdate : Json.lookup? fields "dateValue" = some (.text s)) :
    ofJson freshId (.object fields) =
      (ofJson freshId (.object (Json.setField fields "dateValue" .null))).map (·.on d) := by
  have hgiven : readSlot (.ofFields fields) .date none readDate = .ok (some d) := by
    simp only [readSlot, Source.ofFields, Slot.messageName, hdate, hwritten.readDate]
    rfl
  have hnone : readSlot (.ofFields (Json.setField fields "dateValue" .null)) .date none readDate =
      .ok none := by
    simp only [readSlot, Source.ofFields, Slot.messageName, Json.lookup?_setField, if_true]
    rfl
  have hothers : ∀ slot ≠ .date, Source.ofFields fields slot =
      Source.ofFields (Json.setField fields "dateValue" .null) slot :=
    fun slot hslot => (ofFields_setField fields .null hslot).symm
  exact ofSource_of_date hothers hgiven hnone

variable {c before after : Condition} {now : Moment} {category : Category} {column : TimeColumn}
  {operator : Operator}

theorem formula_of_boundary {side : TimeRelation} (hdate : c.date = some d)
    (hcolumn : category.dateColumn? = some column) (hside : operator.boundarySide? = some side)
    (found : c.Listed category operator) :
    c.formula now = .ok (.test (.time column side (.ofInstant d.midnight))) := by
  have hboundary : c.boundary operator = .ok (.ofInstant d.midnight) := by
    simp only [boundary, hdate]
  rw [formula_eq_ok_iff, c.judge_of_listed now found, categoryFormula_of_dateColumn hcolumn]
  cases operator <;> cases hside <;> simp only [dateFormula, hboundary] <;> rfl

/-- Two statements about a date hold of the dates on either side of an instant, and none of them
where there is no date. At the instant itself the first holds of a date without microseconds, and
none of them of a date with microseconds. -/
structure PartsAround (instant : Instant) (date : Option StoredTime) (earlier later : Prop) :
    Prop where
  earlier_iff : earlier ↔ ∃ t, date = some t ∧ t.IsBefore instant
  later_iff : later ↔ ∃ t, date = some t ∧ instant < t.wall
  neither : date = none ∨ (∃ t, date = some t ∧ t.wall = instant ∧ t.micros ≠ none) →
    ¬ earlier ∧ ¬ later
  never_both : ¬ (earlier ∧ later)
  /-- A date that was handed over is where its clock was. -/
  handedOver : ∀ m : Moment, m.wall < calendarEnd → date = StoredTime.ofText? m.storedText →
    (earlier ↔ m.wall < instant) ∧ (later ↔ instant < m.wall)
  /-- A date that the store filled in is before all that lies in its second. -/
  filledIn : ∀ m : Moment, m.instant < calendarEnd → date = StoredTime.ofText? m.filledText →
    (earlier ↔ m.instant / microsPerSecond * microsPerSecond ≤ instant) ∧
      (later ↔ instant < m.instant / microsPerSecond * microsPerSecond)

theorem partsAround {instant : Instant} {date : Option StoredTime} {earlier later : Prop}
    (hearlier : earlier ↔ ∃ t, date = some t ∧ t.IsBefore instant)
    (hlater : later ↔ ∃ t, date = some t ∧ instant < t.wall) :
    PartsAround instant date earlier later where
  earlier_iff := hearlier
  later_iff := hlater
  neither := by
    rintro (rfl | ⟨t, rfl, rfl, hmicros⟩)
    · simp [hearlier, hlater]
    · simp [hearlier, hlater, StoredTime.IsBefore, hmicros]
  never_both := by
    rw [hearlier, hlater]
    rintro ⟨⟨t, rfl, hbefore⟩, ⟨u, hu, hafter⟩⟩
    obtain rfl : t = u := Option.some.inj hu
    rcases hbefore with hlt | ⟨heq, -⟩
    · exact absurd hafter hlt.not_gt
    · exact absurd hafter heq.not_gt
  handedOver := by
    intro m h hdate
    rw [hearlier, hlater, hdate, StoredTime.ofText?_storedText h]
    simp only [Option.some.injEq, exists_eq_left', Moment.isBefore_kept_iff, Moment.wall_kept,
      and_self]
  filledIn := by
    intro m h hdate
    rw [hearlier, hlater, hdate, StoredTime.ofText?_filledText h]
    simp only [Option.some.injEq, exists_eq_left', Moment.isBefore_filled_iff, Moment.wall_filled,
      and_self]

/-- What a date that is written in a message comes to. -/
structure DatedTo (freshId : String) (fields : List (String × Json)) (d : Date) : Prop where
  /-- The message is accepted as it would be without a date, which then is set. -/
  read : ofJson freshId (.object fields) =
    (ofJson freshId (.object (Json.setField fields "dateValue" .null))).map (·.on d)
  compiles : ∀ (c : Condition) (category : Category) (operator : Operator), c.date = some d →
    category.dateColumn?.isSome = true → operator.boundarySide?.isSome = true →
      c.Listed category operator → ∀ now, ∃ f, c.formula now = .ok f
  parts : ∀ (before after : Condition) (category : Category) (column : TimeColumn),
    category.dateColumn? = some column → before.date = some d → after.date = some d →
      before.Listed category .before → after.Listed category .after →
        ∀ now f g, before.formula now = .ok f → after.formula now = .ok g → ∀ u : Subscriber,
          PartsAround d.midnight (column.of u) (f.eval u = .yes) (g.eval u = .yes)
  /-- The instant is the one at which a clock begins to show the date. -/
  midnight : (Moment.ofInstant d.midnight).text = d.text ++ "T00:00:00+00:00"

/-- A date that a message gives, with whatever time behind it, is the date of the condition, and the
conditions before and after it part the dates at its first instant. -/
theorem written_date_parts_at_midnight (freshId : String) (fields : List (String × Json)) (d : Date)
    (s : String) (hwritten : d.IsWrittenAs s)
    (hdate : Json.lookup? fields "dateValue" = some (.text s)) :
    DatedTo freshId fields d where
  read := ofJson_of_date freshId hwritten hdate
  compiles := by
    intro c category operator hd hcategory hoperator found now
    obtain ⟨column, hcolumn⟩ := Option.isSome_iff_exists.mp hcategory
    obtain ⟨side, hside⟩ := Option.isSome_iff_exists.mp hoperator
    exact ⟨_, formula_of_boundary hd hcolumn hside found⟩
  parts := by
    intro before after category column hcolumn hbefore hafter foundBefore foundAfter now f g hf hg u
    rw [formula_of_boundary hbefore hcolumn rfl foundBefore] at hf
    rw [formula_of_boundary hafter hcolumn rfl foundAfter] at hg
    cases hf
    cases hg
    have hday := d.midnight_lt_calendarEnd
    exact partsAround (Formula.eval_time_eq_yes u column .before hday)
      (Formula.eval_time_eq_yes u column .after hday)
  midnight := Moment.text_midnight d

def leapDay : Date := ⟨2024, 2, 29, by decide, by decide, by decide, by decide⟩

/-- Gives the leap day with a time that in universal time is the day after. -/
def leapDayMessage : List (String × Json) :=
  [("category", .text "last_seen"), ("operator", .text "after"),
    ("dateValue", .text "2024-02-29T23:30:00-11:00")]

theorem written_date_parts_at_midnight_leapDay :
    DatedTo "c" leapDayMessage leapDay ∧
      (ofJson "c" (.object leapDayMessage)).toOption.map (·.date) = some (some leapDay) := by
  have hwritten : leapDay.IsWrittenAs "2024-02-29T23:30:00-11:00" :=
    .inr ⟨"23:30:00-11:00", by decide +kernel⟩
  exact ⟨written_date_parts_at_midnight "c" leapDayMessage leapDay _ hwritten rfl, by
    decide +kernel⟩

/-- Asks for one side of the day on which there were newcomers. -/
def aroundDay (operator : String) : Condition :=
  ⟨"c", .property, "subscribed", operator, none, none, some lastDayOfMay, none, none, none, none,
    none⟩

/-- A date that was filled in at the very beginning of a day counts as before the day, and one that
is before it counts as after if it was handed over by a clock that was ahead. -/
theorem boundary_misplaces_newcomers :
    ((Moment.read "2025-05-31T02:00:00+05:00").toOption.map fun m =>
        decide (m.instant < lastDayOfMay.midnight)) = some true ∧
      selectsOfNewcomers (aroundDay "before") (.ofInstant 0) = some ["filled"] ∧
      selectsOfNewcomers (aroundDay "after") (.ofInstant 0) = some ["ahead"] := by
  refine ⟨?_, ?_, ?_⟩
  all_goals decide +kernel

end Condition

end Targeting
