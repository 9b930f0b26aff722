import Targeting.Audience.Resolution
import Targeting.Proofs.Saving
import Targeting.Proofs.Searching
import Targeting.Proofs.Slots
import Targeting.Proofs.WrittenDates
import Targeting.Store.Columns

/-!
What was read once stays as it is. However loosely a condition was put, what comes out of it is in
normal form: its own slots, submitted again in either spelling or set into a row, are read as the
very condition that they were taken from. Saving is another matter. The store has no form for NaN,
so that a condition with such a number is without a number when it is loaded again.
-/

namespace Targeting

open Number Scalar Text

/-- The names of a number that is not finite, in lower case. -/
def Number.Binary64.names : Binary64 → List String
  | .infinite false => ["inf", "+inf", "infinity", "+infinity"]
  | .infinite true => ["-inf", "-infinity"]
  | .nan => ["nan", "+nan", "-nan"]
  | .finite .. => []

namespace Number

theorem takeSign_map_toLower (cs : List Char) :
    takeSign (cs.map Char.toLower) = ((takeSign cs).1, (takeSign cs).2.map Char.toLower) := by
  match cs with
  | [] => rfl
  | c :: rest =>
      by_cases hminus : c = '-'
      · subst hminus
        rfl
      · by_cases hplus : c = '+'
        · subst hplus
          rfl
        · have hminus' : c.toLower ≠ '-' := by rwa [ne_eq, toLower_eq_iff (by decide)]
          have hplus' : c.toLower ≠ '+' := by rwa [ne_eq, toLower_eq_iff (by decide)]
          simp [takeSign, hminus, hplus, hminus', hplus']

/-- A name is a word behind a sign, which is left out at most in front of a positive number. -/
theorem Binary64.takeSign_of_mem_names {x : Binary64} {name : String} (h : name ∈ x.names) :
    ((takeSign name.toList).2 = "inf".toList ∨ (takeSign name.toList).2 = "infinity".toList) ∧
        x = .infinite (takeSign name.toList).1 ∨
      (takeSign name.toList).2 = "nan".toList ∧ x = .nan := by
  match x with
  | .infinite false | .infinite true | .nan =>
      revert name
      decide
  | .finite .. => cases h

variable {s : String} {x : Binary64}

/-- Texts that differ in the case of their letters name the same. -/
theorem readPlain?_of_mem_names (h : String.ofList (s.toList.map Char.toLower) ∈ x.names) :
    readPlain? s.toList = some x := by
  have hsign := Binary64.takeSign_of_mem_names h
  rw [String.toList_ofList, takeSign_map_toLower] at hsign
  unfold readPlain?
  rcases hsign with ⟨hname, rfl⟩ | ⟨hname, rfl⟩
  · exact if_pos hname
  · simp only at hname
    simp [hname]

theorem trimChars_of_forall_not {p : Char → Bool} {cs : List Char}
    (h : ∀ c ∈ cs, p c = false) : trimChars p cs = cs := by
  have hkept : ∀ {ds : List Char}, (∀ c ∈ ds, p c = false) → ds.dropWhile p = ds := by
    intro ds hds
    exact List.dropWhile_eq_self_iff.mpr fun hne => by simp [hds]
  unfold trimChars
  rw [hkept h, hkept (by simpa using h), List.reverse_reverse]

/-- The characters of a name are signs and letters of either case. -/
theorem plain_of_mem_names (h : String.ofList (s.toList.map Char.toLower) ∈ x.names) {c : Char}
    (hc : c ∈ s.toList) : c.toNat < 0x80 ∧ isSpace c = false := by
  have hall : x.names.all (fun name => name.toList.all ("+-afinty".toList.contains ·)) = true := by
    match x with
    | .infinite false | .infinite true | .nan => decide
    | .finite .. => rfl
  have hlower : c.toLower ∈ "+-afinty".toList := by
    have hname := List.all_eq_true.mp (List.all_eq_true.mp hall _ h) c.toLower
      (by simpa using ⟨c, hc, rfl⟩)
    exact List.contains_iff_mem.mp hname
  unfold Char.toLower at hlower
  split at hlower
  next hupper =>
    have hbounds : 65 ≤ c.toNat ∧ c.toNat ≤ 90 := hupper
    simp only [isSpace, Bool.or_eq_false_iff, Bool.and_eq_false_iff, decide_eq_false_iff_not,
      beq_eq_false_iff_ne]
    omega
  next =>
    have hplain : "+-afinty".toList.all (fun d => d.toNat < 0x80 && !isSpace d) = true := by
      decide
    simpa using List.all_eq_true.mp hplain c hlower

theorem readNumber_of_mem_names (h : String.ofList (s.toList.map Char.toLower) ∈ x.names) :
    readNumber (.text s) = .ok x := by
  have hread : readNumber? s = some x := by
    unfold readNumber?
    rw [trimChars_of_forall_not fun c hc => (plain_of_mem_names h hc).2, readPlain?_of_mem_names h]
  simp [readNumber, isEncodable_of_ascii fun c hc => (plain_of_mem_names h hc).1, hread]

/-- The values that stand for a number, or for none: null, the number itself, the integer that it
is, or its name in letters of any case. -/
inductive Binary64.IsWrittenAs : Option Binary64 → Json → Prop where
  | none : IsWrittenAs none .null
  | itself (x : Binary64) : IsWrittenAs (some x) (.real x)
  | whole {n : Int} (h : (Binary64.ofInt n).isFinite = true) :
      IsWrittenAs (some (.ofInt n)) (.integer n)
  | named {x : Binary64} {s : String} (h : String.ofList (s.toList.map Char.toLower) ∈ x.names) :
      IsWrittenAs (some x) (.text s)

theorem Binary64.IsWrittenAs.readNumber {number : Option Binary64} {value : Json}
    (h : IsWrittenAs number value) : orNull Scalar.readNumber value = .ok number := by
  cases h with
  | none => rfl
  | itself x => rfl
  | whole h => simp [orNull, Scalar.readNumber, h, Except.map]
  | named h => simp [orNull, readNumber_of_mem_names h, Except.map]

end Number

namespace Condition

theorem readKind_name (kind : Kind) : readKind (.text kind.name) = .ok kind := by
  cases kind <;> rfl

theorem readText_ofText? (s : Option String) : orNull readText (.ofText? s) = .ok s := by
  cases s <;> rfl

theorem readDate_ofText? (d : Option Date) : readDate (.ofText? (d.map Date.text)) = .ok d := by
  cases d with
  | none => rfl
  | some d => exact Date.IsWrittenAs.readDate (.inl rfl)

theorem readJoin_ofText? (j : Option Join) : readJoin (.ofText? (j.map Join.name)) = .ok j := by
  cases j with
  | none => rfl
  | some j => cases j <;> decide

variable {c : Condition} {number : Json}

/-- Whatever the slots are called, the condition is read from them. -/
theorem ofSource_slots (hnumber : Binary64.IsWrittenAs c.number number) (freshId : String)
    {source : Source} (hsource : ∀ slot, (source slot).2 = some (c.slots number slot)) :
    ofSource freshId source = .ok c := by
  have hslot : ∀ {α : Type} (slot : Slot) (default : α) (read : Json → Except Issue.Cause α)
      {a : α}, read (c.slots number slot) = .ok a → readSlot source slot default read = .ok a := by
    intro α slot default read a hread
    simp [readSlot, hsource, hread, Reading.named, Except.mapError]
  rw [ofSource_eq_ok_iff]
  exact {
    id := hslot _ _ _ rfl
    kind := hslot _ _ _ (readKind_name c.kind)
    category := hslot _ _ _ rfl
    operator := hslot _ _ _ rfl
    value := hslot _ _ _ (readText_ofText? c.value)
    number := hslot _ _ _ hnumber.readNumber
    date := hslot _ _ _ (readDate_ofText? c.date)
    unit := hslot _ _ _ (readText_ofText? c.unit)
    country := hslot _ _ _ (readText_ofText? c.country)
    region := hslot _ _ _ (readText_ofText? c.region)
    city := hslot _ _ _ (readText_ofText? c.city)
    join := hslot _ _ _ (readJoin_ofText? c.join) }

/-- The slots of a condition as an object, each under its name. -/
def message (c : Condition) (number : Json) (name : Slot → String) : Json :=
  .object (Slot.all.map fun slot => (name slot, c.slots number slot))

theorem ofFields_columns (value : Slot → Json) (slot : Slot) :
    (Source.ofFields (Slot.all.map fun slot => (slot.columnName, value slot)) slot).2 =
      some (value slot) := by
  cases slot <;> rfl

theorem ofFields_messageNames (value : Slot → Json) (slot : Slot) :
    (Source.ofFields (Slot.all.map fun slot => (slot.messageName, value slot)) slot).2 =
      some (value slot) := by
  cases slot <;> rfl

end Condition

/-- Among whatever other rows, a row is read as a condition, and the others as they are without
it. -/
structure ConditionRow.ReadsAs (row : ConditionRow) (c : Condition) : Prop where
  conditions (before after : List ConditionRow) : conditions (before ++ row :: after) =
    ConditionRow.conditions before ++ c :: ConditionRow.conditions after
  malformed (before after : List ConditionRow) : malformed (before ++ row :: after) =
    ConditionRow.malformed before ++ ConditionRow.malformed after

theorem ConditionRow.readsAs_of_ok {row : ConditionRow} {c : Condition}
    (h : row.condition = .ok c) : row.ReadsAs c where
  conditions before after := by simp [ConditionRow.conditions, h, Except.toOption]
  malformed before after := by simp [ConditionRow.malformed, h]

namespace Condition

theorem numberValue_isWrittenAs (c : Condition) : Binary64.IsWrittenAs c.number c.numberValue := by
  unfold numberValue
  cases c.number with
  | none => exact .none
  | some x => exact .itself x

/-- What comes of a condition that is saved, where there is room for it: it is read again as what
the store keeps of it, or it is not saved at all since some text of it has no bytes. -/
structure Saves (c : Condition) (d : Database) (now : Moment) (segmentId : String)
    (position : Int) : Prop where
  reloaded : (∀ text ∈ c.rowTexts, isEncodable text = true) → ∃ row,
    d.insert now [c.newRow segmentId position] = .ok (d.withConditionRow row) ∧
      row.isOf segmentId = true ∧ row.ReadsAs c.kept
  refused : (∃ text ∈ c.rowTexts, isEncodable text = false) →
    ∃ e, d.insert now [c.newRow segmentId position] = .error e

/-- A condition stays what it is: its slots, submitted again or set into a row, are read as the
condition itself. In the store it loses a number that is not one, and a zero its sign, and after
that nothing more. -/
structure Stays (c : Condition) (number : Json) (reading : Reading Condition) : Prop where
  columns (freshId : String) : ofJson freshId (c.message number Slot.columnName) = reading
  message (freshId : String) : ofJson freshId (c.message number Slot.messageName) = reading
  row (segmentId : Json) (position : LooseNumber) :
    (ConditionRow.mk segmentId position (c.slots number)).ReadsAs c
  saves (d : Database) (now : Moment) (segmentId : String) (position : Int) :
    d.HasRoomFor now c segmentId position → c.Saves d now segmentId position
  exact : (∀ x, c.number = some x → x ≠ .nan ∧ (x.isZero = true → x = .zero)) → c.kept = c
  lost : c.number = some .nan → c.kept = { c with number := none }
  unsigned : ∀ x, c.number = some x → x.isZero = true → c.kept = { c with number := some .zero }
  settled : c.kept.kept = c.kept

theorem readsAs_slots {c : Condition} {number : Json}
    (hnumber : Binary64.IsWrittenAs c.number number) (segmentId : Json) (position : LooseNumber) :
    (ConditionRow.mk segmentId position (c.slots number)).ReadsAs c :=
  ConditionRow.readsAs_of_ok (ofSource_slots hnumber "" fun _ => rfl)

/-- Reading is done with at once: what was read from any input is read again from its own slots. -/
theorem stays_of_ofJson {c : Condition} {freshId : String} {payload number : Json}
    (h : ofJson freshId payload = .ok c) (hnumber : Binary64.IsWrittenAs c.number number) :
    c.Stays number (ofJson freshId payload) := by
  rw [h]
  exact {
    columns := fun freshId => ofSource_slots hnumber freshId (ofFields_columns _)
    message := fun freshId => ofSource_slots hnumber freshId (ofFields_messageNames _)
    row := readsAs_slots hnumber
    saves := fun d now segmentId position hroom => {
      reloaded := fun htexts => ⟨_, Database.insert_newRow hroom htexts,
        by simp [ConditionRow.isOf], readsAs_slots c.kept.numberValue_isWrittenAs _ _⟩
      refused := fun ⟨text, htext, hbytes⟩ => Database.insert_newRow_error hroom htext hbytes }
    exact := by
      intro hexact
      apply kept_eq_self
      intro x hx
      obtain ⟨hnan, hzero⟩ := hexact x hx
      exact Binary64.kept?_eq_some hnan hzero
    lost := by
      intro hnan
      simp [kept, hnan, Binary64.kept?_nan]
    unsigned := by
      intro x hx hzero
      simp [kept, hx, Binary64.kept?_of_isZero hzero]
    settled := c.kept_kept }

/-- A loose message: no id and no category, blanks around a numeral, seconds for a date, a join in
small letters. -/
def looseFields : List (String × Json) :=
  [("category", .null), ("operator", .text "after"), ("numberValue", .text " -Infinity "),
    ("dateValue", .integer 1672531200), ("date_unit", .text ""), ("logicalOperator", .text " or ")]

/-- What the loose message comes to. -/
def fromLoose : Condition :=
  ⟨"fresh", .property, "", "after", none, some (.infinite true),
    some ⟨2023, 1, 1, by decide, by decide, by decide, by decide⟩, some "", none, none, none,
    some .any⟩

/-- The normal form of the loose message stays, also with its number written in letters. Saved as
the first row of all, it is loaded again as it was. -/
theorem stays_of_looseFields : ofJson "fresh" (.object looseFields) = .ok fromLoose ∧
    fromLoose.Stays (.text "-INF") (ofJson "fresh" (.object looseFields)) ∧
    fromLoose.Saves ⟨.empty, [], true, none⟩ (.ofInstant 0) "s1" 0 ∧
    (∀ text ∈ fromLoose.rowTexts, isEncodable text = true) ∧ fromLoose.kept = fromLoose := by
  have hstays : fromLoose.Stays (.text "-INF") (ofJson "fresh" (.object looseFields)) :=
    stays_of_ofJson rfl (.named (by decide))
  have hroom : Database.HasRoomFor ⟨.empty, [], true, none⟩ (.ofInstant 0) fromLoose "s1" 0 :=
    Database.hasRoomFor_empty fromLoose (by decide) (by decide) rfl
  refine ⟨rfl, hstays, hstays.saves _ _ _ _ hroom, by decide, hstays.exact ?_⟩
  rintro x ⟨⟩
  decide

/-- A message with a number that is not one. -/
def nanFields : List (String × Json) :=
  [("category", .text "last_seen"), ("operator", .text "in_last"), ("numberValue", .text "nan"),
    ("dateUnit", .text "days")]

/-- The number is accepted, and gone after the condition was saved. -/
theorem saved_nan_is_lost : ∃ c, ofJson "c" (.object nanFields) = .ok c ∧ c.number = some .nan ∧
    ((Database.insert ⟨.empty, [], true, none⟩ (.ofInstant 0) [c.newRow "s1" 0]).toOption.map
      fun d => ConditionRow.conditions d.store.conditionRows) =
        some [{ c with number := none }] :=
  ⟨_, rfl, rfl, by decide +kernel⟩

end Condition

end Targeting
