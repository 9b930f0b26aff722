import Targeting.Proofs.Acceptance
import Targeting.Proofs.Sample

/-!
Equality with columns that may be missing. A missing column is neither equal to a text nor different
from it, so that a condition and its denial can both fail to match. A place is several columns: it
is there when all of its parts are, and it is denied as soon as one part is known to differ,
whatever is missing beside it.
-/

namespace Targeting

open Text

/-- The columns that an equality of the category compares. Dates and addresses are compared in other
ways. -/
def Category.columns : Category → List TextColumn
  | .location => [.country, .region, .city]
  | .deviceType => [.device]
  | .browser => [.browser]
  | .operatingSystem => [.os]
  | .language => [.language]
  | .referrer => [.referrer]
  | .subscribed | .lastSeen | .emailDomain => []

namespace Subscriber

/-- The column is known, and it is the given text up to the case of ASCII letters. -/
def Has (u : Subscriber) (column : TextColumn) (value : String) : Prop :=
  ∃ text, column.of u = some text ∧ fold text = fold value

/-- The column is known, and it is another text. -/
def HasOther (u : Subscriber) (column : TextColumn) (value : String) : Prop :=
  ∃ text, column.of u = some text ∧ fold text ≠ fold value

variable {u : Subscriber} {column : TextColumn} {value : String}

theorem not_has_of_hasOther (h : u.HasOther column value) : ¬ u.Has column value := by
  rintro ⟨text, htext, hsame⟩
  obtain ⟨other, hother, hdiffers⟩ := h
  rw [htext] at hother
  cases hother
  exact hdiffers hsame

theorem not_has_iff (h : ¬ u.HasOther column value) :
    ¬ u.Has column value ↔ column.of u = none := by
  constructor
  · intro hnot
    cases htext : column.of u with
    | none => rfl
    | some text =>
        by_cases hsame : fold text = fold value
        · exact absurd ⟨text, htext, hsame⟩ hnot
        · exact absurd ⟨text, htext, hsame⟩ h
  · rintro hnone ⟨text, htext, -⟩
    rw [hnone] at htext
    cases htext

end Subscriber

namespace Truth

theorem and_eq_no (a b : Truth) : a.and b = .no ↔ a = .no ∨ b = .no := by
  cases a <;> cases b <;> simp [and]

theorem ofColumn_eq_no {α : Type} (test : α → Bool) (column : Option α) :
    ofColumn test column = .no ↔ ∃ a, column = some a ∧ test a = false := by
  cases column with
  | none => simp [ofColumn]
  | some a => cases h : test a <;> simp [ofColumn, ofBool, h]

end Truth

namespace Formula

variable (u : Subscriber) (column : TextColumn) (value : String)

theorem eval_all_eq_no (rest : List Formula) (first : Formula) :
    (all first rest).eval u = .no ↔ first.eval u = .no ∨ ∃ f ∈ rest, f.eval u = .no := by
  induction rest generalizing first with
  | nil => simp [all]
  | cons f rest ih =>
      have hrest := ih (.both first f)
      simp only [all] at hrest
      simp [all, hrest, eval, Truth.and_eq_no, or_assoc]

theorem eval_same_eq_yes :
    (test (.text column .same value)).eval u = .yes ↔ u.Has column value := by
  simp only [eval, Test.eval, Truth.ofColumn_eq_yes, TextRelation.relates, sameFolded_iff]
  rfl

theorem eval_same_eq_no :
    (test (.text column .same value)).eval u = .no ↔ u.HasOther column value := by
  simp only [eval, Test.eval, Truth.ofColumn_eq_no, TextRelation.relates,
    ← Bool.not_eq_true, sameFolded_iff]
  rfl

theorem eval_differs_eq_yes :
    (test (.text column .differs value)).eval u = .yes ↔ u.HasOther column value := by
  simp only [eval, Test.eval, Truth.ofColumn_eq_yes, TextRelation.relates, Bool.not_eq_true',
    ← Bool.not_eq_true, sameFolded_iff]
  rfl

end Formula

namespace Condition

/-- The slot that a column is compared with. -/
def slot (c : Condition) : TextColumn → Option String
  | .country => c.country
  | .region => c.region
  | .city => c.city
  | _ => c.value

/-- The condition has a text for a column of the category. -/
structure Fills (c : Condition) (category : Category) (column : TextColumn) (value : String) :
    Prop where
  mem : column ∈ category.columns
  given : c.slot column = some value
  filled : isBlank value = false

/-- Two conditions hold the same in the slots that are compared. -/
structure SameSlots (c d : Condition) : Prop where
  value : c.value = d.value
  country : c.country = d.country
  region : c.region = d.region
  city : c.city = d.city

variable {c d : Condition} {now : Moment} {category : Category} {column : TextColumn}
  {operator : Operator} {f : Formula}

theorem SameSlots.fills_iff (h : c.SameSlots d) {value : String} :
    c.Fills category column value ↔ d.Fills category column value := by
  have hslot : c.slot column = d.slot column := by
    cases column <;> simp [slot, h.value, h.country, h.region, h.city]
  constructor
  · rintro ⟨hmem, hgiven, hfilled⟩
    exact ⟨hmem, hslot ▸ hgiven, hfilled⟩
  · rintro ⟨hmem, hgiven, hfilled⟩
    exact ⟨hmem, hslot ▸ hgiven, hfilled⟩

theorem filledValue_eq_ok_iff {value : String} :
    c.filledValue operator = .ok value ↔ c.value = some value ∧ isBlank value = false := by
  unfold filledValue
  cases c.value with
  | none => simp
  | some found =>
      by_cases hblank : isBlank found = true
      · simp only [hblank, if_true, reduceCtorEq, false_iff, not_and, Option.some.injEq]
        rintro rfl
        simp [hblank]
      · simp only [hblank, if_false, Except.ok.injEq, Option.some.injEq, Bool.false_eq_true]
        constructor
        · rintro rfl
          exact ⟨rfl, by simpa using hblank⟩
        · exact And.left

theorem filledValue_map_eq_ok {g : String → Formula}
    (h : (c.filledValue operator).map g = .ok f) :
    ∃ value, c.value = some value ∧ isBlank value = false ∧ f = g value := by
  cases hread : c.filledValue operator with
  | error cause =>
      rw [hread] at h
      cases h
  | ok value =>
      rw [hread] at h
      cases h
      obtain ⟨hgiven, hfilled⟩ := filledValue_eq_ok_iff.mp hread
      exact ⟨value, hgiven, hfilled, rfl⟩

theorem formula_eq_ok_iff : c.formula now = .ok f ↔ c.judge now = .ok f := by
  unfold formula
  cases c.judge now <;> simp [Except.mapError]

/-- The formula of a condition is the one that its category makes of it. -/
theorem categoryFormula_of_formula (h : c.formula now = .ok f)
    (found : c.Listed category operator) :
    c.categoryFormula now category operator = .ok f := by
  rw [← c.judge_of_listed now found]
  exact formula_eq_ok_iff.mp h

/-- Outside of places the category compares one column, and with the value slot. -/
theorem textFormula_of_categoryFormula (hcategory : category ≠ .location)
    (hcolumn : column ∈ category.columns) (hoperator : operator = .equal ∨ operator = .notEqual)
    (h : c.categoryFormula now category operator = .ok f) :
    c.textFormula column operator = .ok f := by
  cases category with
  | location => exact absurd rfl hcategory
  | subscribed | lastSeen | emailDomain => cases hcolumn
  | browser | operatingSystem | language | referrer =>
      cases List.mem_singleton.mp hcolumn
      exact h
  | deviceType =>
      cases List.mem_singleton.mp hcolumn
      rcases hoperator with rfl | rfl <;> exact h

theorem fills_iff_of_ne_location (hcategory : category ≠ .location)
    (hcolumn : column ∈ category.columns) {other : TextColumn} {value : String} :
    c.Fills category other value ↔
      other = column ∧ c.value = some value ∧ isBlank value = false := by
  have hcolumns : category.columns = [column] ∧ c.slot column = c.value := by
    cases category with
    | location => exact absurd rfl hcategory
    | subscribed | lastSeen | emailDomain => cases hcolumn
    | browser | operatingSystem | language | referrer | deviceType =>
        cases List.mem_singleton.mp hcolumn
        exact ⟨rfl, rfl⟩
  constructor
  · rintro ⟨hmem, hgiven, hfilled⟩
    rw [hcolumns.1] at hmem
    cases List.mem_singleton.mp hmem
    exact ⟨rfl, hcolumns.2 ▸ hgiven, hfilled⟩
  · rintro ⟨rfl, hgiven, hfilled⟩
    exact ⟨hcolumn, hcolumns.2 ▸ hgiven, hfilled⟩

theorem mem_places_iff {value : String} :
    (column, value) ∈ c.places ↔ c.Fills .location column value := by
  have hslots : (column, value) ∈ c.places ↔
      ∃ p ∈ [(TextColumn.country, c.country), (.region, c.region), (.city, c.city)],
        p.1 = column ∧ p.2 = some value ∧ isBlank value = false := by
    rw [places, List.mem_filterMap]
    refine exists_congr fun p => and_congr_right fun _ => ?_
    obtain ⟨other, slot⟩ := p
    cases slot with
    | none => simp
    | some place =>
        by_cases hblank : isBlank place = true
        · simp only [hblank, if_true, reduceCtorEq, false_iff, not_and, Option.some.injEq]
          rintro - rfl
          simp [hblank]
        · simp only [hblank, if_false, Option.some.injEq, Prod.mk.injEq, Bool.false_eq_true]
          constructor
          · rintro ⟨rfl, rfl⟩
            exact ⟨rfl, rfl, by simpa using hblank⟩
          · rintro ⟨rfl, rfl, -⟩
            exact ⟨rfl, rfl⟩
  rw [hslots]
  constructor
  · rintro ⟨p, hp, rfl, hgiven, hfilled⟩
    simp only [List.mem_cons, List.not_mem_nil, or_false] at hp
    rcases hp with rfl | rfl | rfl <;> exact ⟨by simp [Category.columns], hgiven, hfilled⟩
  · rintro ⟨hmem, hgiven, hfilled⟩
    simp only [Category.columns, List.mem_cons, List.not_mem_nil, or_false] at hmem
    rcases hmem with rfl | rfl | rfl
    · exact ⟨_, .head _, rfl, hgiven, hfilled⟩
    · exact ⟨_, .tail _ (.head _), rfl, hgiven, hfilled⟩
    · exact ⟨_, .tail _ (.tail _ (.head _)), rfl, hgiven, hfilled⟩

theorem eval_placeFormula_equal (u : Subscriber) (first : TextColumn × String)
    (rest : List (TextColumn × String)) :
    (placeFormula .equal first rest).eval u = .yes ↔ ∀ p ∈ first :: rest, u.Has p.1 p.2 := by
  cases rest with
  | nil => simp [placeFormula, Formula.eval_same_eq_yes]
  | cons second rest =>
      rw [placeFormula, if_pos rfl, Formula.eval_all_eq_yes, List.forall_mem_cons,
        List.forall_mem_map]
      simp only [Formula.eval_same_eq_yes]

theorem eval_placeFormula_notEqual (u : Subscriber) (first : TextColumn × String)
    (rest : List (TextColumn × String)) :
    (placeFormula .notEqual first rest).eval u = .yes ↔
      ∃ p ∈ first :: rest, u.HasOther p.1 p.2 := by
  cases rest with
  | nil => simp [placeFormula, Formula.eval_differs_eq_yes]
  | cons second rest =>
      rw [placeFormula, if_neg (by decide), Formula.eval, Truth.not_eq_yes,
        Formula.eval_all_eq_no, List.exists_mem_cons_iff]
      simp only [List.mem_map, exists_exists_and_eq_and, Formula.eval_same_eq_no]

theorem places_of_categoryFormula (hoperator : operator = .equal ∨ operator = .notEqual)
    (h : c.categoryFormula now .location operator = .ok f) :
    ∃ first rest, c.places = first :: rest ∧ f = placeFormula operator first rest := by
  have hlocation : c.locationFormula operator = .ok f := h
  cases hfound : c.places with
  | nil =>
      rcases hoperator with rfl | rfl
      · simp [locationFormula, hfound] at hlocation
      · simp [locationFormula, hfound] at hlocation
  | cons first rest =>
      refine ⟨first, rest, rfl, ?_⟩
      rcases hoperator with rfl | rfl
      · simpa [locationFormula, hfound, eq_comm] using hlocation
      · simpa [locationFormula, hfound, eq_comm] using hlocation

/-- Outside of places an equality is a test of one column against the value slot. -/
theorem text_of_formula (h : c.formula now = .ok f) (found : c.Listed category operator)
    (hoperator : operator = .equal ∨ operator = .notEqual) (hcategory : category ≠ .location)
    (hcolumn : column ∈ category.columns) :
    ∃ value, c.value = some value ∧ isBlank value = false ∧
      f = .test (.text column (if operator = .equal then .same else .differs) value) := by
  have htext := textFormula_of_categoryFormula hcategory hcolumn hoperator
    (categoryFormula_of_formula h found)
  rcases hoperator with rfl | rfl
  · exact filledValue_map_eq_ok htext
  · exact filledValue_map_eq_ok htext

/-- A condition that asks for an equality has a text to compare with. -/
theorem exists_fills (h : c.formula now = .ok f) (found : c.Listed category operator)
    (hoperator : operator = .equal ∨ operator = .notEqual) (hcolumns : category.columns ≠ []) :
    ∃ column value, c.Fills category column value := by
  by_cases hcategory : category = .location
  · subst hcategory
    obtain ⟨first, rest, hplaces, -⟩ :=
      places_of_categoryFormula hoperator (categoryFormula_of_formula h found)
    exact ⟨first.1, first.2, mem_places_iff.mp (hplaces ▸ .head _)⟩
  · obtain ⟨column, hcolumn⟩ := List.exists_mem_of_ne_nil _ hcolumns
    obtain ⟨value, hgiven, hfilled, -⟩ := text_of_formula h found hoperator hcategory hcolumn
    exact ⟨column, value,
      (fills_iff_of_ne_location hcategory hcolumn).mpr ⟨rfl, hgiven, hfilled⟩⟩

variable {u : Subscriber}

theorem eval_text_equal (h : c.formula now = .ok f) (hcategory : category ≠ .location)
    (hcolumn : column ∈ category.columns) (found : c.Listed category .equal) :
    ∃ value, c.value = some value ∧ isBlank value = false ∧
      (f.eval u = .yes ↔ u.Has column value) := by
  obtain ⟨value, hgiven, hfilled, rfl⟩ := text_of_formula h found (.inl rfl) hcategory hcolumn
  exact ⟨value, hgiven, hfilled, Formula.eval_same_eq_yes u column value⟩

theorem eval_text_notEqual (h : c.formula now = .ok f) (hcategory : category ≠ .location)
    (hcolumn : column ∈ category.columns) (found : c.Listed category .notEqual) :
    ∃ value, c.value = some value ∧ isBlank value = false ∧
      (f.eval u = .yes ↔ u.HasOther column value) := by
  obtain ⟨value, hgiven, hfilled, rfl⟩ := text_of_formula h found (.inr rfl) hcategory hcolumn
  exact ⟨value, hgiven, hfilled, Formula.eval_differs_eq_yes u column value⟩

theorem eval_equal (h : c.formula now = .ok f) (found : c.Listed category .equal)
    (hcolumns : category.columns ≠ []) :
    f.eval u = .yes ↔ ∀ column value, c.Fills category column value → u.Has column value := by
  by_cases hcategory : category = .location
  · subst hcategory
    obtain ⟨first, rest, hplaces, rfl⟩ :=
      places_of_categoryFormula (.inl rfl) (categoryFormula_of_formula h found)
    rw [eval_placeFormula_equal, ← hplaces, Prod.forall]
    simp only [mem_places_iff]
  · obtain ⟨column, hcolumn⟩ := List.exists_mem_of_ne_nil _ hcolumns
    obtain ⟨value, hgiven, hfilled, heval⟩ := eval_text_equal (u := u) h hcategory hcolumn found
    simp only [heval, fills_iff_of_ne_location hcategory hcolumn]
    constructor
    · rintro hhas other found ⟨rfl, hfound, -⟩
      cases hgiven.symm.trans hfound
      exact hhas
    · intro hall
      exact hall column value ⟨rfl, hgiven, hfilled⟩

theorem eval_notEqual (h : c.formula now = .ok f) (found : c.Listed category .notEqual)
    (hcolumns : category.columns ≠ []) :
    f.eval u = .yes ↔ ∃ column value, c.Fills category column value ∧ u.HasOther column value := by
  -- A place with one part is denied by a test of its own, and one with more by a negation; both
  -- say that some part differs.
  by_cases hcategory : category = .location
  · subst hcategory
    obtain ⟨first, rest, hplaces, rfl⟩ :=
      places_of_categoryFormula (.inr rfl) (categoryFormula_of_formula h found)
    rw [eval_placeFormula_notEqual, ← hplaces, Prod.exists]
    simp only [mem_places_iff]
  · obtain ⟨column, hcolumn⟩ := List.exists_mem_of_ne_nil _ hcolumns
    obtain ⟨value, hgiven, hfilled, heval⟩ := eval_text_notEqual (u := u) h hcategory hcolumn found
    simp only [heval, fills_iff_of_ne_location hcategory hcolumn]
    constructor
    · intro hother
      exact ⟨column, value, ⟨rfl, hgiven, hfilled⟩, hother⟩
    · rintro ⟨other, found, ⟨rfl, hfound, -⟩, hother⟩
      cases hgiven.symm.trans hfound
      exact hother

/-- Of a condition and its denial, at most one matches. That none does, has one reason: something
that is compared is missing, and nothing that is there differs. -/
structure ApartFrom (c : Condition) (category : Category) (u : Subscriber) (f g : Formula) :
    Prop where
  exclusive : ¬ (f.eval u = .yes ∧ g.eval u = .yes)
  neither_iff : f.eval u ≠ .yes ∧ g.eval u ≠ .yes ↔
    (∀ column value, c.Fills category column value → ¬ u.HasOther column value) ∧
      ∃ column value, c.Fills category column value ∧ column.of u = none

theorem apart {g : Formula} (hf : c.formula now = .ok f) (hg : d.formula now = .ok g)
    (hc : c.Listed category .equal) (hd : d.Listed category .notEqual) (hslots : d.SameSlots c)
    (hcolumns : category.columns ≠ []) : c.ApartFrom category u f g := by
  have hsame := eval_equal (u := u) hf hc hcolumns
  have hdiffers := eval_notEqual (u := u) hg hd hcolumns
  simp only [hslots.fills_iff] at hdiffers
  constructor
  · rintro ⟨hyes, hother⟩
    obtain ⟨column, value, hfills, hother⟩ := hdiffers.mp hother
    exact Subscriber.not_has_of_hasOther hother (hsame.mp hyes column value hfills)
  · rw [ne_eq, ne_eq, hsame, hdiffers]
    push Not
    constructor
    · rintro ⟨⟨column, value, hfills, hnot⟩, hnone⟩
      exact ⟨hnone, column, value, hfills,
        (Subscriber.not_has_iff (hnone column value hfills)).mp hnot⟩
    · rintro ⟨hnone, column, value, hfills, hnull⟩
      exact ⟨⟨column, value, hfills,
        (Subscriber.not_has_iff (hnone column value hfills)).mpr hnull⟩, hnone⟩

/-- What a listed operator makes of the slots does not look at how it was written. -/
theorem categoryFormula_respelled (written : String) :
    ({ c with operator := written } : Condition).categoryFormula now category operator =
      c.categoryFormula now category operator := by
  cases category <;> rfl

/-- An operator is known by its key alone. -/
theorem formula_of_operatorKey {written : String} (h : c.formula now = .ok f)
    (hkey : operatorKey written = operatorKey c.operator) :
    ({ c with operator := written }).formula now = .ok f := by
  obtain ⟨category, operator, found, -⟩ := (c.accepted_iff now).mp ⟨f, h⟩
  have respelled : ({ c with operator := written } : Condition).Listed category operator :=
    ⟨⟨found.kind, found.key⟩, found.listed, hkey.trans found.name⟩
  rw [formula_eq_ok_iff, judge_of_listed _ now respelled, categoryFormula_respelled]
  exact categoryFormula_of_formula h found

/-- The older spellings of the two equalities. -/
inductive Respells : String → String → Prop
  | equal {old new : String} (hold : normalizedName old = "equals")
      (hnew : normalizedName new = Operator.equal.name) : Respells old new
  | notEqual {old new : String} (hold : normalizedName old = "not_equals")
      (hnew : normalizedName new = Operator.notEqual.name) : Respells old new

theorem Respells.operatorKey_eq {old new : String} (h : Respells old new) :
    operatorKey old = operatorKey new := by
  cases h with
  | equal hold hnew => simp [operatorKey, hold, hnew, Operator.name]
  | notEqual hold hnew => simp [operatorKey, hold, hnew, Operator.name]

/-- What the formula of a condition says of a subscriber, as far as it is about equality or about
what is missing. -/
structure ComparesUnderNull (c : Condition) (now : Moment) (f : Formula) (u : Subscriber) :
    Prop where
  text_equal : ∀ category column, category ≠ .location → column ∈ category.columns →
    c.Listed category .equal →
      ∃ value, c.value = some value ∧ isBlank value = false ∧
        (f.eval u = .yes ↔ u.Has column value)
  text_notEqual : ∀ category column, category ≠ .location → column ∈ category.columns →
    c.Listed category .notEqual →
      ∃ value, c.value = some value ∧ isBlank value = false ∧
        (f.eval u = .yes ↔ u.HasOther column value)
  /-- There is always something to compare with. -/
  filled : ∀ category operator, operator = .equal ∨ operator = .notEqual →
    category.columns ≠ [] → c.Listed category operator →
      ∃ column value, c.Fills category column value
  place_equal : c.Listed .location .equal →
    (f.eval u = .yes ↔ ∀ column value, c.Fills .location column value → u.Has column value)
  place_notEqual : c.Listed .location .notEqual →
    (f.eval u = .yes ↔
      ∃ column value, c.Fills .location column value ∧ u.HasOther column value)
  mobile : c.Listed .deviceType .isMobile → (f.eval u = .yes ↔ u.isMobile = some true)
  desktop : c.Listed .deviceType .isDesktop → (f.eval u = .yes ↔ u.isMobile = some false)
  absent : c.Listed .referrer .isNull → (f.eval u = .yes ↔ u.referrer = none)
  present : c.Listed .referrer .isNotNull → (f.eval u = .yes ↔ u.referrer ≠ none)
  apart : ∀ (category : Category) (d : Condition) (g : Formula), category.columns ≠ [] →
    d.SameSlots c → d.formula now = .ok g → c.Listed category .equal →
      d.Listed category .notEqual → c.ApartFrom category u f g
  respelled : ∀ old new, Respells old new → ∀ g,
    ({ c with operator := old }).formula now = .ok g ↔
      ({ c with operator := new }).formula now = .ok g

/-- Every condition that has a formula compares as its category and operator say, whatever the
subscriber lacks. -/
theorem formula_compares_under_null (c : Condition) (now : Moment) (f : Formula)
    (h : c.formula now = .ok f) (u : Subscriber) : ComparesUnderNull c now f u where
  text_equal category column hcategory hcolumn found :=
    eval_text_equal h hcategory hcolumn found
  text_notEqual category column hcategory hcolumn found :=
    eval_text_notEqual h hcategory hcolumn found
  filled category operator hoperator hcolumns found := exists_fills h found hoperator hcolumns
  place_equal found := eval_equal h found (by decide)
  place_notEqual found := eval_notEqual h found (by decide)
  mobile found := by
    cases categoryFormula_of_formula h found
    simp [Formula.eval, Test.eval, Truth.ofBool_eq_yes]
  desktop found := by
    cases categoryFormula_of_formula h found
    simp [Formula.eval, Test.eval, Truth.ofBool_eq_yes]
  absent found := by
    cases categoryFormula_of_formula h found
    simp [Formula.eval, Test.eval, Truth.ofBool_eq_yes, TextColumn.of]
  present found := by
    cases categoryFormula_of_formula h found
    simp [Formula.eval, Test.eval, Truth.ofBool_eq_yes, TextColumn.of, Option.isSome_iff_ne_none]
  apart category d g hcolumns hslots hg hc hd := c.apart h hg hc hd hslots hcolumns
  respelled old new hspelled g := by
    constructor
    · intro hold
      have hnew := formula_of_operatorKey hold hspelled.operatorKey_eq.symm
      exact hnew
    · intro hnew
      have hold := formula_of_operatorKey hnew hspelled.operatorKey_eq
      exact hold

/-- Denies two of the three parts of a place. -/
def elsewhere : Condition :=
  { Sample.condition "location" "" .all with
    operator := "NOT-equals"
    value := none
    country := some "FR"
    city := some "Paris" }

/-- The country is missing and the city differs. -/
def traveller : Subscriber := { Sample.subscriber "u1" "chrome" with city := some "Lyon" }

theorem formula_compares_under_null_elsewhere :
    ∃ f, elsewhere.formula Sample.now = .ok f ∧ f.eval traveller = .yes ∧
      ComparesUnderNull elsewhere Sample.now f traveller := by
  have hmatches : ((elsewhere.formula Sample.now).toOption.map (·.eval traveller)) =
      some Truth.yes := by decide +kernel
  cases hformula : elsewhere.formula Sample.now with
  | error r =>
      rw [hformula] at hmatches
      cases hmatches
  | ok f =>
      rw [hformula] at hmatches
      exact ⟨f, rfl, Option.some.inj hmatches,
        formula_compares_under_null elsewhere Sample.now f hformula traveller⟩

end Condition

end Targeting
