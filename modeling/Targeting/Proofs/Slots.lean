import Targeting.Store.Basic

/-!
The slots of a condition are read one by one. A condition is accepted exactly when each of its slots
is, and it holds what was read in them; what is in one slot has no bearing on the others.
-/

namespace Targeting

open Scalar

namespace Json

theorem lookup?_setField (fields : List (String × Json)) (name : String) (value : Json)
    (other : String) :
    lookup? (setField fields name value) other =
      if other = name then some value else lookup? fields other := by
  unfold setField lookup?
  split
  next hany =>
    have hkeys : ∀ field : String × Json,
        (if field.1 == name then (field.1, value) else (field.1, field.2)).1 = field.1 := by
      intro field
      split <;> rfl
    simp only [List.find?_map, Function.comp_def, hkeys]
    cases hfound : fields.find? (fun field => field.1 == other) with
    | none =>
        have hne : other ≠ name := by
          rintro rfl
          obtain ⟨field, hmem, hkey⟩ := List.any_eq_true.mp hany
          exact List.find?_eq_none.mp hfound field hmem hkey
        simp [hne]
    | some field =>
        have hkey : field.1 = other := by simpa using List.find?_some hfound
        by_cases hname : other = name
        · simp [hkey, hname]
        · simp [hkey, hname]
  next hnone =>
    by_cases hname : other = name
    · have hmissing : fields.find? (fun field => field.1 == name) = none := by
        rw [List.find?_eq_none]
        intro field hmem hkey
        exact hnone (List.any_eq_true.mpr ⟨field, hmem, hkey⟩)
      simp [hname, List.find?_append, hmissing]
    · have hnew : [(name, value)].find? (fun field => field.1 == other) = none := by
        simp [Ne.symm hname]
      simp [hname, List.find?_append, hnew]

end Json

namespace Reading

variable {α β γ : Type}

theorem ap_eq_ok_iff {f : Reading (α → β)} {x : Reading α} {b : β} :
    f.ap x = .ok b ↔ ∃ g a, f = .ok g ∧ x = .ok a ∧ g a = b := by
  cases f <;> cases x <;> simp [ap]

theorem ap_ok (f : Reading (α → β)) (a : α) : f.ap (.ok a) = f.map (· a) := by
  cases f <;> rfl

theorem map_ap (f : Reading (α → β)) (x : Reading α) (g : β → γ) :
    (f.ap x).map g = Reading.ap (f.map (g ∘ ·)) x := by
  cases f <;> cases x <;> rfl

theorem map_pure (a : α) (g : α → β) : (Reading.pure a).map g = Reading.pure (g a) :=
  rfl

end Reading

namespace Condition

variable {freshId : String} {source other : Source} {c : Condition}

/-- Each slot of a source is read as what the condition holds in it. -/
structure IsReadFrom (c : Condition) (freshId : String) (source : Source) : Prop where
  id : readSlot source .id freshId readText = .ok c.id
  kind : readSlot source .kind .property readKind = .ok c.kind
  category : readSlot source .category "" readTextOrEmpty = .ok c.category
  operator : readSlot source .operator "" readTextOrEmpty = .ok c.operator
  value : readSlot source .value none (orNull readText) = .ok c.value
  number : readSlot source .number none (orNull readNumber) = .ok c.number
  date : readSlot source .date none readDate = .ok c.date
  unit : readSlot source .unit none (orNull readText) = .ok c.unit
  country : readSlot source .country none (orNull readText) = .ok c.country
  region : readSlot source .region none (orNull readText) = .ok c.region
  city : readSlot source .city none (orNull readText) = .ok c.city
  join : readSlot source .join none readJoin = .ok c.join

theorem ofSource_eq_ok_iff : ofSource freshId source = .ok c ↔ c.IsReadFrom freshId source := by
  constructor
  · intro h
    unfold ofSource at h
    obtain ⟨_, _, upToCity, hjoin, rfl⟩ := Reading.ap_eq_ok_iff.mp h
    obtain ⟨_, _, upToRegion, hcity, rfl⟩ := Reading.ap_eq_ok_iff.mp upToCity
    obtain ⟨_, _, upToCountry, hregion, rfl⟩ := Reading.ap_eq_ok_iff.mp upToRegion
    obtain ⟨_, _, upToUnit, hcountry, rfl⟩ := Reading.ap_eq_ok_iff.mp upToCountry
    obtain ⟨_, _, upToDate, hunit, rfl⟩ := Reading.ap_eq_ok_iff.mp upToUnit
    obtain ⟨_, _, upToNumber, hdate, rfl⟩ := Reading.ap_eq_ok_iff.mp upToDate
    obtain ⟨_, _, upToValue, hnumber, rfl⟩ := Reading.ap_eq_ok_iff.mp upToNumber
    obtain ⟨_, _, upToOperator, hvalue, rfl⟩ := Reading.ap_eq_ok_iff.mp upToValue
    obtain ⟨_, _, upToCategory, hoperator, rfl⟩ := Reading.ap_eq_ok_iff.mp upToOperator
    obtain ⟨_, _, upToKind, hcategory, rfl⟩ := Reading.ap_eq_ok_iff.mp upToCategory
    obtain ⟨_, _, upToId, hkind, rfl⟩ := Reading.ap_eq_ok_iff.mp upToKind
    obtain ⟨_, _, hstart, hid, rfl⟩ := Reading.ap_eq_ok_iff.mp upToId
    cases hstart
    exact ⟨hid, hkind, hcategory, hoperator, hvalue, hnumber, hdate, hunit, hcountry, hregion,
      hcity, hjoin⟩
  · intro h
    unfold ofSource
    simp only [h.id, h.kind, h.category, h.operator, h.value, h.number, h.date, h.unit, h.country,
      h.region, h.city, h.join]
    rfl

theorem ofSource_of_date {d : Date}
    (hothers : ∀ slot ≠ .date, source slot = other slot)
    (hdate : readSlot source .date none readDate = .ok (some d))
    (hnone : readSlot other .date none readDate = .ok none) :
    ofSource freshId source = (ofSource freshId other).map ({ · with date := some d }) := by
  have hslot : ∀ {α : Type} (slot : Slot) (default : α) (read : Json → Except Issue.Cause α),
      slot ≠ .date → readSlot source slot default read = readSlot other slot default read := by
    intro α slot default read hne
    simp only [readSlot, hothers slot hne]
  unfold ofSource
  simp (disch := decide) only [hdate, hnone, hslot, Reading.ap_ok, Reading.map_ap,
    Reading.map_pure]
  rfl

theorem ofFields_setField (fields : List (String × Json)) (value : Json) {slot : Slot}
    (h : slot ≠ .date) :
    Source.ofFields (Json.setField fields "dateValue" value) slot =
      Source.ofFields fields slot := by
  have hmessage : slot.messageName ≠ "dateValue" := by
    cases slot <;> first | exact absurd rfl h | decide
  have hcolumn : slot.columnName ≠ "dateValue" := by
    cases slot <;> decide
  simp only [Source.ofFields, Json.lookup?_setField, hmessage, hcolumn, if_false]

end Condition

namespace ConditionRow

/-- A row that can be read has the id of its condition. -/
theorem column_id_of_condition {row : ConditionRow} {c : Condition} (h : row.condition = .ok c) :
    row.column .id = .text c.id := by
  have hread := (Condition.ofSource_eq_ok_iff.mp h).id
  simp only [Condition.readSlot] at hread
  cases hid : row.column .id with
  | text s =>
      rw [hid] at hread
      cases hread
      rfl
  | _ =>
      rw [hid] at hread
      cases hread

end ConditionRow

end Targeting
