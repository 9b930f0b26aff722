import Mathlib.Data.List.ReduceOption
import Mathlib.Data.List.TakeWhile
import Targeting.Audience.Resolution
import Targeting.Proofs.Equality
import Targeting.Proofs.Places
import Targeting.Proofs.Slots

/-!
The texts that queries carry. The formula of a condition hands over texts of the condition, as they
are or escaped for a search, and nothing else; and escaped text has bytes if it had them before. So
what is stored with bytes can always be asked for again.
-/

namespace Targeting

open Text

namespace Text

/-- Nothing is said of text exactly when it has bytes. -/
theorem encodingComplaint?_eq_none_iff (s : String) :
    encodingComplaint? s = none ↔ isEncodable s = true := by
  have hdrop : (points s).drop ((points s).takeWhile (!isSurrogate ·)).length =
      (points s).dropWhile (!isSurrogate ·) := by
    have hsplit : (points s).takeWhile (!isSurrogate ·) ++ (points s).dropWhile (!isSurrogate ·) =
        points s := List.takeWhile_append_dropWhile
    calc (points s).drop ((points s).takeWhile (!isSurrogate ·)).length
        = ((points s).takeWhile (!isSurrogate ·) ++
            (points s).dropWhile (!isSurrogate ·)).drop
              ((points s).takeWhile (!isSurrogate ·)).length := by rw [hsplit]
      _ = (points s).dropWhile (!isSurrogate ·) := List.drop_left
  unfold encodingComplaint? codeComplaint?
  dsimp only
  rw [hdrop]
  cases hrest : (points s).dropWhile (!isSurrogate ·) with
  | nil =>
      have hall := List.dropWhile_eq_nil_iff.mp hrest
      have hencodable : isEncodable s = true := by
        simpa [isEncodable] using hall
      simp [hencodable]
  | cons n rest =>
      have hfirst : isSurrogate n = true := by
        have hhead := List.head_dropWhile_not (l := points s) (!isSurrogate ·) (by simp [hrest])
        simpa [hrest] using hhead
      have hmem : n ∈ points s := by
        apply (List.dropWhile_suffix (!isSurrogate ·)).subset
        rw [hrest]
        exact List.mem_cons_self
      have hencodable : isEncodable s = false := by
        simpa [isEncodable] using ⟨n, hmem, hfirst⟩
      rw [List.takeWhile_cons_of_pos hfirst, hencodable]
      constructor
      · intro h
        split at h <;> simp_all
      · intro h
        cases h

/-- A character that has to be escaped. -/
def IsWild (c : Char) : Prop := c = escapeChar ∨ c = '%' ∨ c = '_'

theorem IsWild.plain {c : Char} (h : IsWild c) : c ≠ mark ∧ isSurrogate c.toNat = false := by
  rcases h with rfl | rfl | rfl <;> decide

theorem escapeWildcards_of_isWild {c : Char} (h : IsWild c) (rest : List Char) :
    escapeWildcards (c :: rest) = escapeChar :: c :: escapeWildcards rest := if_pos h

theorem escapeWildcards_of_not_isWild {c : Char} (h : ¬ IsWild c) (rest : List Char) :
    escapeWildcards (c :: rest) = c :: escapeWildcards rest := if_neg h

/-- The points of a character behind the escape, whatever follows. -/
theorem any_pointsOf_escaped {c : Char} (h : IsWild c) (rest : List Char) :
    (pointsOf (escapeChar :: c :: rest)).any isSurrogate = (pointsOf rest).any isSurrogate := by
  have hescape := IsWild.plain (.inl rfl)
  rw [pointsOf_cons hescape.1, pointsOf_cons h.plain.1]
  simp [hescape.2, h.plain.2]

/-- An escape never makes half of a pair: where it gets between a mark and the character that the
mark goes with, the two are read as points that they are not halves of. -/
theorem any_isSurrogate_escapeWildcards {cs : List Char}
    (h : (pointsOf cs).any isSurrogate = false) :
    (pointsOf (escapeWildcards cs)).any isSurrogate = false := by
  induction cs using pointsOf.induct with
  | case1 => rfl
  | case2 c =>
      by_cases hc : IsWild c
      · rw [escapeWildcards_of_isWild hc, any_pointsOf_escaped hc]
        rfl
      · rwa [escapeWildcards_of_not_isWild hc]
  | case3 d rest ih =>
      have hmark : ¬ IsWild mark := fun hwild => hwild.plain.1 rfl
      have hparts : (pointsOf rest).any isSurrogate = false ∧
          isSurrogate (if d = mark then lastPoint else d.toNat - surrogateShift) = false := by
        simpa [pointsOf, and_comm] using h
      rw [escapeWildcards_of_not_isWild hmark]
      by_cases hd : IsWild d
      · rw [escapeWildcards_of_isWild hd, pointsOf, if_pos rfl, pointsOf_cons hd.plain.1]
        simpa [hd.plain.2, ih hparts.1] using (by decide)
      · rw [escapeWildcards_of_not_isWild hd, pointsOf, if_pos rfl, List.any_cons, hparts.2,
          ih hparts.1]
        rfl
  | case4 c d rest hmark ih =>
      have hparts : isSurrogate c.toNat = false ∧
          (pointsOf (d :: rest)).any isSurrogate = false := by
        simpa [pointsOf, hmark] using h
      by_cases hc : IsWild c
      · rw [escapeWildcards_of_isWild hc, any_pointsOf_escaped hc]
        exact ih hparts.2
      · rw [escapeWildcards_of_not_isWild hc, pointsOf_cons hmark, List.any_cons, hparts.1,
          ih hparts.2]
        rfl

theorem isEncodable_escapedText {value : String} (h : isEncodable value = true) :
    isEncodable (escapedText value) = true := by
  simp only [isEncodable, Bool.not_eq_true'] at h ⊢
  rw [escapedText, points, String.toList_ofList]
  exact any_isSurrogate_escapeWildcards h

end Text

theorem Crash.ofText?_eq_none_iff (text : String) :
    ofText? text = none ↔ isEncodable text = true := by
  rw [← encodingComplaint?_eq_none_iff]
  exact Option.map_eq_none_iff

namespace Condition

theorem isEncodable_addressEnd {domain : String} (h : isEncodable domain = true) :
    isEncodable (addressEnd domain) = true := by
  unfold addressEnd
  split
  · exact h
  · have hat : '@' ≠ mark := by decide
    have hplain : isSurrogate '@'.toNat = false := by decide
    simp only [isEncodable, Bool.not_eq_true'] at h ⊢
    rw [points, String.toList_append]
    change (pointsOf ('@' :: domain.toList)).any isSurrogate = false
    rw [pointsOf_cons hat, List.any_cons, hplain]
    exact h

end Condition

namespace Formula

/-- What the formula hands over has bytes. -/
def IsEncodable (f : Formula) : Prop := ∀ text ∈ f.boundTexts, isEncodable text = true

variable {f : Formula}

theorem isEncodable_of_textless (h : f.boundTexts = []) : f.IsEncodable := by
  intro text htext
  rw [h] at htext
  cases htext

theorem isEncodable_text (column : TextColumn) (relation : TextRelation) {value : String}
    (h : Text.isEncodable value = true) :
    (Formula.test (.text column relation value)).IsEncodable := by
  intro text htext
  cases relation with
  | same | differs =>
      rw [List.mem_singleton.mp htext]
      exact h
  | holds | endsWith | endsOtherwise =>
      rw [List.mem_singleton.mp htext]
      exact isEncodable_escapedText h

/-- A conjunction hands over what its formulas do. -/
theorem boundTexts_all (rest : List Formula) (first : Formula) :
    (all first rest).boundTexts = first.boundTexts ++ rest.flatMap boundTexts := by
  induction rest generalizing first with
  | nil => simp [all]
  | cons f rest ih =>
      have hrest : (all first (f :: rest)).boundTexts =
          (both first f).boundTexts ++ rest.flatMap boundTexts := ih (both first f)
      rw [hrest, List.flatMap_cons, boundTexts, List.append_assoc]

theorem boundTexts_any (rest : List Formula) (first : Formula) :
    (any first rest).boundTexts = first.boundTexts ++ rest.flatMap boundTexts := by
  induction rest generalizing first with
  | nil => simp [any]
  | cons f rest ih =>
      have hrest : (any first (f :: rest)).boundTexts =
          (either first f).boundTexts ++ rest.flatMap boundTexts := ih (either first f)
      rw [hrest, List.flatMap_cons, boundTexts, List.append_assoc]

variable {first : Formula} {rest : List Formula}

theorem isEncodable_all (h : ∀ f ∈ first :: rest, f.IsEncodable) :
    (all first rest).IsEncodable := by
  intro text htext
  rw [boundTexts_all, ← List.flatMap_cons] at htext
  obtain ⟨f, hf, hbound⟩ := List.mem_flatMap.mp htext
  exact h f hf text hbound

theorem isEncodable_any (h : ∀ f ∈ first :: rest, f.IsEncodable) :
    (any first rest).IsEncodable := by
  intro text htext
  rw [boundTexts_any, ← List.flatMap_cons] at htext
  obtain ⟨f, hf, hbound⟩ := List.mem_flatMap.mp htext
  exact h f hf text hbound

end Formula

namespace Condition

/-- The texts of a condition that its formula can be made of. -/
def texts (c : Condition) : List String := [c.value, c.country, c.region, c.city].reduceOption

def IsEncodable (c : Condition) : Prop := ∀ text ∈ c.texts, Text.isEncodable text = true

variable {c : Condition} {now : Moment} {operator : Operator} {f : Formula}

theorem IsEncodable.value (hc : c.IsEncodable) {value : String} (h : c.value = some value) :
    Text.isEncodable value = true := by
  apply hc
  rw [texts, List.reduceOption_mem_iff, h]
  exact List.mem_cons_self

theorem IsEncodable.place (hc : c.IsEncodable) {p : TextColumn × String} (h : p ∈ c.places) :
    Text.isEncodable p.2 = true := by
  obtain ⟨hmem, hgiven, -⟩ := mem_places_iff.mp h
  have hslot : ∀ column ∈ Category.location.columns,
      c.slot column ∈ [c.value, c.country, c.region, c.city] := by
    simp [Category.columns, slot]
  apply hc
  rw [texts, List.reduceOption_mem_iff, ← hgiven]
  exact hslot p.1 hmem

theorem isEncodable_dateFormula {column : TimeColumn}
    (h : c.dateFormula column now operator = .ok f) : f.IsEncodable := by
  have htime : ∀ {read : Except Rejection.Cause Moment} {relation : TimeRelation},
      (read.map fun bound => Formula.test (.time column relation bound)) = .ok f →
        f.IsEncodable := by
    intro read relation hmap
    cases read with
    | error cause => cases hmap
    | ok bound =>
        cases hmap
        exact Formula.isEncodable_of_textless rfl
  unfold dateFormula at h
  split at h <;> exact htime h

theorem IsEncodable.textFormula (hc : c.IsEncodable) {column : TextColumn}
    (h : c.textFormula column operator = .ok f) : f.IsEncodable := by
  unfold Condition.textFormula at h
  split at h
  · cases h
    exact Formula.isEncodable_of_textless rfl
  · cases h
    exact Formula.isEncodable_of_textless rfl
  all_goals
    obtain ⟨value, hgiven, -, rfl⟩ := filledValue_map_eq_ok h
    exact Formula.isEncodable_text _ _ (hc.value hgiven)

theorem IsEncodable.deviceFormula (hc : c.IsEncodable) (h : c.deviceFormula operator = .ok f) :
    f.IsEncodable := by
  unfold Condition.deviceFormula at h
  split at h
  · cases h
    exact Formula.isEncodable_of_textless rfl
  · cases h
    exact Formula.isEncodable_of_textless rfl
  · exact hc.textFormula h

theorem IsEncodable.emailFormula (hc : c.IsEncodable) (h : c.emailFormula operator = .ok f) :
    f.IsEncodable := by
  unfold Condition.emailFormula at h
  split at h
  · exact hc.textFormula h
  all_goals
    obtain ⟨value, hgiven, -, rfl⟩ := filledValue_map_eq_ok h
    exact Formula.isEncodable_text _ _ (isEncodable_addressEnd (hc.value hgiven))

theorem isEncodable_placeFormula {first : TextColumn × String} {rest : List (TextColumn × String)}
    (h : ∀ p ∈ first :: rest, Text.isEncodable p.2 = true) :
    (placeFormula operator first rest).IsEncodable := by
  cases rest with
  | nil => exact Formula.isEncodable_text _ _ (h first List.mem_cons_self)
  | cons second rest =>
      have hplace : (Formula.all (.test (.text first.1 .same first.2))
          ((second :: rest).map fun p => .test (.text p.1 .same p.2))).IsEncodable := by
        apply Formula.isEncodable_all
        rw [← List.map_cons (f := fun p : TextColumn × String =>
          Formula.test (.text p.1 .same p.2)), List.forall_mem_map]
        intro p hp
        exact Formula.isEncodable_text _ _ (h p hp)
      unfold placeFormula
      dsimp only
      split
      · exact hplace
      · exact hplace

theorem IsEncodable.locationFormula (hc : c.IsEncodable) (h : c.locationFormula operator = .ok f) :
    f.IsEncodable := by
  unfold Condition.locationFormula at h
  split at h
  · obtain ⟨value, hgiven, -, rfl⟩ := filledValue_map_eq_ok h
    apply Formula.isEncodable_any
    simp only [List.forall_mem_cons, List.not_mem_nil, false_imp_iff, implies_true, and_true]
    have hvalue := hc.value hgiven
    exact ⟨Formula.isEncodable_text _ _ hvalue, Formula.isEncodable_text _ _ hvalue,
      Formula.isEncodable_text _ _ hvalue⟩
  · split at h
    · cases h
    next first rest hplaces =>
      cases h
      apply isEncodable_placeFormula
      rw [← hplaces]
      intro p hp
      exact hc.place hp

theorem IsEncodable.categoryFormula (hc : c.IsEncodable) {category : Category}
    (h : c.categoryFormula now category operator = .ok f) : f.IsEncodable := by
  cases category with
  | subscribed | lastSeen => exact isEncodable_dateFormula h
  | location => exact hc.locationFormula h
  | deviceType => exact hc.deviceFormula h
  | emailDomain => exact hc.emailFormula h
  | browser | operatingSystem | language | referrer => exact hc.textFormula h

/-- A condition whose texts have bytes has a formula whose texts have bytes, if it has one. -/
theorem IsEncodable.formula (hc : c.IsEncodable) (h : c.formula now = .ok f) : f.IsEncodable := by
  obtain ⟨category, operator, found, -⟩ := (c.accepted_iff now).mp ⟨f, h⟩
  exact hc.categoryFormula (categoryFormula_of_formula h found)

end Condition

namespace Predicate

variable {conditions : List Condition} {merchantId : String} {now : Moment}

/-- Every formula of a predicate is that of one of its conditions. -/
theorem exists_of_mem_formulas {part : Part} {f : Formula}
    (h : f ∈ Layout.formulas (.ofConditions conditions) now part) :
    ∃ c ∈ conditions, c.formula? now = some f := by
  obtain ⟨place, c, hplace, -, hf⟩ := (Layout.mem_formulasFrom now part f _ 0).mp h
  have hmem := List.mem_of_getElem? hplace
  exact ⟨c, by simpa [Layout.ofConditions] using hmem, hf⟩

/-- A predicate carries the id of its merchant and what the formulas of its conditions hand over. -/
theorem isEncodable_ofConditions (hmerchant : Text.isEncodable merchantId = true)
    (h : ∀ c ∈ conditions, ∀ f, c.formula? now = some f → f.IsEncodable) :
    (ofConditions conditions merchantId now).formula.IsEncodable := by
  have hpart : ∀ part, ∀ f ∈ Layout.formulas (.ofConditions conditions) now part,
      f.IsEncodable := by
    intro part f hf
    obtain ⟨c, hc, hcf⟩ := exists_of_mem_formulas hf
    exact h c hc f hcf
  have hscope : (tenantScope merchantId).IsEncodable := by
    intro text htext
    rw [List.mem_singleton.mp htext]
    exact hmerchant
  have hone : ∀ alternatives : List Formula, (∀ f ∈ alternatives, f.IsEncodable) →
      ∀ f ∈ oneOf alternatives, f.IsEncodable := by
    intro alternatives halternatives f hf
    cases alternatives with
    | nil => cases hf
    | cons first rest =>
        rw [List.mem_singleton.mp hf]
        exact Formula.isEncodable_any halternatives
  rw [ofConditions_eq]
  apply Formula.isEncodable_all
  intro f hf
  rcases List.mem_cons.mp hf with rfl | hf
  · exact hscope
  rcases List.mem_append.mp hf with hrequired | halternative
  · exact hpart .required f hrequired
  · exact hone _ (hpart .alternative) f halternative

end Predicate

namespace ConditionRow

/-- The texts in the columns of a row have bytes. -/
def IsEncodable (row : ConditionRow) : Prop :=
  ∀ slot text, row.column slot = .text text → Text.isEncodable text = true

variable {row : ConditionRow} {c : Condition}

theorem column_eq_text {slot : Condition.Slot} {text : String}
    (h : Condition.readSlot (fun slot => (slot.columnName, some (row.column slot))) slot none
      (Scalar.orNull Scalar.readText) = .ok (some text)) : row.column slot = .text text := by
  have hread : Scalar.orNull Scalar.readText (row.column slot) = .ok (some text) := by
    unfold Condition.readSlot at h
    dsimp only at h
    cases hslot : Scalar.orNull Scalar.readText (row.column slot) with
    | error cause =>
        rw [hslot] at h
        cases h
    | ok found =>
        rw [hslot] at h
        cases h
        rfl
  cases hcolumn : row.column slot with
  | text found =>
      rw [hcolumn] at hread
      cases hread
      rfl
  | _ =>
      rw [hcolumn] at hread
      cases hread

theorem IsEncodable.condition (hrow : row.IsEncodable) (h : row.condition = .ok c) :
    c.IsEncodable := by
  have hread := Condition.ofSource_eq_ok_iff.mp h
  intro text htext
  rw [Condition.texts, List.reduceOption_mem_iff] at htext
  simp only [List.mem_cons, List.not_mem_nil, or_false] at htext
  rcases htext with hvalue | hcountry | hregion | hcity
  · exact hrow .value text (column_eq_text (hvalue ▸ hread.value))
  · exact hrow .country text (column_eq_text (hcountry ▸ hread.country))
  · exact hrow .region text (column_eq_text (hregion ▸ hread.region))
  · exact hrow .city text (column_eq_text (hcity ▸ hread.city))

end ConditionRow

end Targeting
