import Mathlib.Data.List.Basic
import Targeting.Condition.Meaning

/-!
Which conditions have a meaning. A condition is accepted when the catalogue lists its operator
under its category and the slots that the operator needs are filled. Everything else is rejected,
and the kind of the rejection says how far the condition got: its category is not supported, its
operator is not one of the category, or it is incomplete.
-/

namespace Targeting

open Number Text

/-- A number that a window can have: finite, and not below zero. A zero may carry a sign. -/
def Number.Binary64.IsLength : Binary64 → Prop
  | .finite negative m _ => negative = true → m = 0
  | .infinite _ | .nan => False

namespace Condition

/-- The condition is a property of a category of the catalogue. -/
structure InCategory (c : Condition) (category : Category) : Prop where
  kind : c.kind = .property
  key : categoryKey c.category = category.name

/-- The catalogue lists the operator of the condition under its category. -/
structure Listed (c : Condition) (category : Category) (operator : Operator) : Prop extends
    InCategory c category where
  listed : operator ∈ category.operators
  name : operatorKey c.operator = operator.name

/-- Number and unit of a condition give a window that begins within the calendar. The blanks around
the unit and its case do not matter. -/
structure FixesWindow (c : Condition) (now : Moment) (number : Binary64) (u : WindowUnit)
    (micros : Nat) : Prop where
  given : c.number = some number
  isLength : number.IsLength
  named : ∃ written, c.unit = some written ∧ lower (trim written) = u.name
  length : daysInMicros? (u.span number) = some micros
  /-- The wall clock of the calendar's first moment shows zero. -/
  reached : micros ≤ now.wall

def HasWindow (c : Condition) (now : Moment) : Prop :=
  ∃ number u micros, c.FixesWindow now number u micros

/-- The slots that an operator of a category needs hold what it needs. -/
def SlotsFilled (c : Condition) (now : Moment) (category : Category) : Operator → Prop
  | .inLast | .moreThanAgo | .lessThanAgo => c.HasWindow now
  | .before | .after => c.date.isSome = true
  | .isMobile | .isDesktop | .isNull | .isNotNull => True
  | .contains => isFilled c.value = true
  | .equal | .notEqual =>
      if category = .location then
        isFilled c.country = true ∨ isFilled c.region = true ∨ isFilled c.city = true
      else isFilled c.value = true

end Condition

/-- Slots are read: there is a result exactly when they hold what is needed, and a condition
without a result is incomplete. -/
structure Reads {α : Type} (needed : Prop) (read : Except Rejection.Cause α) : Prop where
  ok_iff : (∃ a, read = .ok a) ↔ needed
  incomplete : ∀ cause, read = .error cause → cause.kind = .incomplete

namespace Reads

variable {α β : Type} {needed : Prop}

theorem ok {a : α} (h : needed) : Reads needed (.ok a : Except Rejection.Cause α) :=
  ⟨⟨fun _ => h, fun _ => ⟨a, rfl⟩⟩, by simp⟩

theorem error {cause : Rejection.Cause} (hmissing : ¬ needed) (hkind : cause.kind = .incomplete) :
    Reads needed (.error cause : Except Rejection.Cause α) where
  ok_iff := by simp [hmissing]
  incomplete := by
    intro found hfound
    cases hfound
    exact hkind

theorem map {read : Except Rejection.Cause α} (h : Reads needed read) (f : α → β) :
    Reads needed (read.map f) := by
  cases hread : read with
  | ok a => exact ok (h.ok_iff.mp ⟨a, hread⟩)
  | error cause =>
      refine error (fun hneeded => ?_) (h.incomplete cause hread)
      obtain ⟨a, ha⟩ := h.ok_iff.mpr hneeded
      rw [hread] at ha
      cases ha

end Reads

namespace Number.Binary64

theorem isLength_iff (x : Binary64) : x.IsLength ↔ x.isFinite = true ∧ x.isNegative = false := by
  cases x with
  | finite negative m e => cases negative <;> simp [IsLength, isFinite, isNegative]
  | infinite negative => simp [IsLength, isFinite]
  | nan => simp [IsLength, isFinite]

end Number.Binary64

/-- Entries with different names are found by their names. -/
theorem find?_name_eq_some_iff {α : Type} {name : α → String} (hname : Function.Injective name)
    (entries : List α) (key : String) (entry : α) :
    entries.find? (fun e => name e == key) = some entry ↔ entry ∈ entries ∧ key = name entry := by
  constructor
  · intro h
    have hkey := List.find?_some h
    exact ⟨List.mem_of_find?_eq_some h, (beq_iff_eq.mp hkey).symm⟩
  · rintro ⟨hmem, rfl⟩
    cases hfound : entries.find? (fun e => name e == name entry) with
    | none => exact absurd (List.find?_eq_none.mp hfound entry hmem) (by simp)
    | some other =>
        have hkey := List.find?_some hfound
        rw [hname (beq_iff_eq.mp hkey)]

theorem Operator.name_injective : Function.Injective Operator.name := by
  intro a b h
  cases a <;> cases b <;> first | rfl | simp [Operator.name] at h

theorem Operator.name_ne_empty (o : Operator) : o.name ≠ "" := by
  cases o <;> simp [Operator.name]

namespace Category

theorem name_injective : Function.Injective Category.name := by
  intro a b h
  cases a <;> cases b <;> first | rfl | simp [Category.name] at h

theorem name_ne_empty (category : Category) : category.name ≠ "" := by
  cases category <;> simp [Category.name]

theorem mem_all (category : Category) : category ∈ all := by
  cases category <;> simp [all]

theorem ofKey?_eq_some_iff (key : String) (category : Category) :
    ofKey? key = some category ↔ key = category.name := by
  rw [ofKey?, find?_name_eq_some_iff name_injective]
  exact and_iff_right category.mem_all

theorem ofKey?_eq_none_iff (key : String) :
    ofKey? key = none ↔ ∀ category : Category, key ≠ category.name := by
  simp only [Option.eq_none_iff_forall_ne_some, ne_eq, ofKey?_eq_some_iff]

theorem operator?_eq_some_iff (category : Category) (key : String) (operator : Operator) :
    category.operator? key = some operator ↔
      operator ∈ category.operators ∧ key = operator.name :=
  find?_name_eq_some_iff Operator.name_injective _ key operator

theorem operator?_eq_none_iff (category : Category) (key : String) :
    category.operator? key = none ↔ ∀ o ∈ category.operators, key ≠ o.name := by
  simp only [Option.eq_none_iff_forall_ne_some, ne_eq, operator?_eq_some_iff, not_and]

end Category

theorem WindowUnit.ofName?_eq_some_iff (name : String) (u : WindowUnit) :
    ofName? name = some u ↔ name = u.name := by
  have hname : Function.Injective WindowUnit.name := by
    intro a b h
    cases a <;> cases b <;> first | rfl | simp [WindowUnit.name] at h
  have hall : u ∈ all := by cases u <;> simp [all]
  rw [ofName?, find?_name_eq_some_iff hname]
  exact and_iff_right hall

theorem Moment.exists_daysBack?_iff (now : Moment) (days : Binary64) :
    (∃ start, now.daysBack? days = some start) ↔
      ∃ micros, daysInMicros? days = some micros ∧ micros ≤ now.wall := by
  unfold daysBack?
  cases daysInMicros? days with
  | none => simp
  | some micros => by_cases hle : micros ≤ now.wall <;> simp [hle]

namespace Condition

variable (c : Condition) (now : Moment)

theorem reads_filledValue (operator : Operator) :
    Reads (isFilled c.value = true) (c.filledValue operator) := by
  unfold filledValue
  cases c.value with
  | none => exact .error (by simp [isFilled]) rfl
  | some value =>
      by_cases hblank : isBlank value = true
      · simp only [hblank, if_true]
        exact .error (by simp [isFilled, hblank]) rfl
      · simp only [hblank]
        exact .ok (by simpa [isFilled] using hblank)

theorem reads_boundary (operator : Operator) :
    Reads (c.date.isSome = true) (c.boundary operator) := by
  unfold boundary
  cases c.date with
  | none => exact .error (by simp) rfl
  | some date => exact .ok rfl

theorem isSome_slots_of_hasWindow (h : c.HasWindow now) :
    c.number.isSome = true ∧ c.unit.isSome = true := by
  obtain ⟨number, u, micros, h⟩ := h
  obtain ⟨written, hwritten, -⟩ := h.named
  simp [h.given, hwritten]

theorem hasWindow_iff {number : Binary64} {written : String} (hnumber : c.number = some number)
    (hunit : c.unit = some written) :
    c.HasWindow now ↔ number.IsLength ∧ ∃ u : WindowUnit, lower (trim written) = u.name ∧
      ∃ start, now.daysBack? (u.span number) = some start := by
  simp only [Moment.exists_daysBack?_iff]
  constructor
  · rintro ⟨n, u, micros, h⟩
    obtain rfl : number = n := Option.some.inj (hnumber.symm.trans h.given)
    obtain ⟨other, hother, hname⟩ := h.named
    obtain rfl : written = other := Option.some.inj (hunit.symm.trans hother)
    exact ⟨h.isLength, u, hname, micros, h.length, h.reached⟩
  · rintro ⟨hlength, u, hname, micros, hmicros, hreached⟩
    exact ⟨number, u, micros, hnumber, hlength, ⟨written, hunit, hname⟩, hmicros, hreached⟩

/-- A blank unit has no name left, and no unit of a window is without one. -/
theorem ne_name_of_isBlank {written : String} (h : isBlank written = true) (u : WindowUnit) :
    lower (trim written) ≠ u.name := by
  rw [(trim_eq_empty_iff written).mpr h]
  cases u <;> decide

theorem reads_cutoff (operator : Operator) :
    Reads (c.HasWindow now) (c.cutoff operator now) := by
  unfold cutoff
  split
  next number written hnumber hunit =>
    rw [c.hasWindow_iff now hnumber hunit, Binary64.isLength_iff]
    split_ifs with hblank hfinite hnegative
    · refine .error ?_ rfl
      rintro ⟨-, u, hname, -⟩
      exact ne_name_of_isBlank hblank u hname
    · exact .error (by simp_all) rfl
    · exact .error (by simp_all) rfl
    · have hlength : number.isFinite = true ∧ number.isNegative = false := by simp_all
      split
      next hunknown =>
        refine .error ?_ rfl
        rintro ⟨-, u, hname, -⟩
        rw [(WindowUnit.ofName?_eq_some_iff _ u).mpr hname] at hunknown
        cases hunknown
      next u hknown =>
        have hname := (WindowUnit.ofName?_eq_some_iff _ u).mp hknown
        split
        next hback =>
          refine .error ?_ rfl
          rintro ⟨-, other, hother, start, hstart⟩
          rw [(WindowUnit.ofName?_eq_some_iff _ other).mpr hother] at hknown
          cases hknown
          rw [hstart] at hback
          cases hback
        next start hstart => exact .ok ⟨hlength, u, hname, start, hstart⟩
  next hmissing =>
    refine .error (fun h => ?_) rfl
    obtain ⟨hnumber, hunit⟩ := c.isSome_slots_of_hasWindow now h
    obtain ⟨number, hnumber⟩ := Option.isSome_iff_exists.mp hnumber
    obtain ⟨written, hunit⟩ := Option.isSome_iff_exists.mp hunit
    exact hmissing number written hnumber hunit

theorem reads_dateFormula (column : TimeColumn) (category : Category) {operator : Operator}
    (h : operator ∈ Category.dateOperators) :
    Reads (c.SlotsFilled now category operator) (c.dateFormula column now operator) := by
  cases operator with
  | inLast | moreThanAgo | lessThanAgo => exact (c.reads_cutoff now _).map _
  | before | after => exact (c.reads_boundary _).map _
  | _ => simp [Category.dateOperators] at h

/-- The operators that compare a column with the value slot, or ask whether it is there. -/
theorem reads_textFormula (column : TextColumn) {category : Category} (hc : category ≠ .location)
    {operator : Operator} (h : operator ∈ Category.textOperators ++ [.isNull, .isNotNull]) :
    Reads (c.SlotsFilled now category operator) (c.textFormula column operator) := by
  cases operator with
  | isNull | isNotNull => exact .ok trivial
  | contains => exact (c.reads_filledValue _).map _
  | equal | notEqual =>
      simp only [SlotsFilled, hc, if_false]
      exact (c.reads_filledValue _).map _
  | _ => simp [Category.textOperators] at h

theorem reads_deviceFormula {operator : Operator} (h : operator ∈ Category.deviceType.operators) :
    Reads (c.SlotsFilled now .deviceType operator) (c.deviceFormula operator) := by
  cases operator with
  | isMobile | isDesktop => exact .ok trivial
  | equal | notEqual => exact c.reads_textFormula now .device (by decide) (by decide)
  | _ => simp [Category.operators] at h

theorem reads_emailFormula {operator : Operator} (h : operator ∈ Category.textOperators) :
    Reads (c.SlotsFilled now .emailDomain operator) (c.emailFormula operator) := by
  cases operator with
  | contains => exact c.reads_textFormula now .email (by decide) (by decide)
  | equal | notEqual => exact (c.reads_filledValue _).map _
  | _ => simp [Category.textOperators] at h

theorem places_eq_nil_iff : c.places = [] ↔
    ¬ (isFilled c.country = true ∨ isFilled c.region = true ∨ isFilled c.city = true) := by
  simp only [places, List.filterMap_eq_nil_iff, List.forall_mem_cons]
  cases c.country <;> cases c.region <;> cases c.city <;> simp [isFilled]

theorem reads_locationFormula {operator : Operator} (h : operator ∈ Category.textOperators) :
    Reads (c.SlotsFilled now .location operator) (c.locationFormula operator) := by
  cases operator with
  | contains => exact (c.reads_filledValue _).map _
  | equal | notEqual =>
      simp only [SlotsFilled, if_true, locationFormula]
      cases hplaces : c.places with
      | nil => exact .error (c.places_eq_nil_iff.mp hplaces) rfl
      | cons first rest =>
          refine .ok (Decidable.of_not_not fun hnone => ?_)
          rw [c.places_eq_nil_iff.mpr hnone] at hplaces
          cases hplaces
  | _ => simp [Category.textOperators] at h

theorem reads_categoryFormula {category : Category} {operator : Operator}
    (h : operator ∈ category.operators) :
    Reads (c.SlotsFilled now category operator) (c.categoryFormula now category operator) := by
  cases category with
  | subscribed | lastSeen => exact c.reads_dateFormula now _ _ h
  | location => exact c.reads_locationFormula now h
  | deviceType => exact c.reads_deviceFormula now h
  | emailDomain => exact c.reads_emailFormula now h
  | browser | operatingSystem | language =>
      exact c.reads_textFormula now _ (by decide) (List.mem_append_left _ h)
  | referrer => exact c.reads_textFormula now _ (by decide) h

/-- How far the judgement of a condition gets, and what it comes to there. -/
inductive Verdict : Except Rejection.Cause Formula → Prop
  | blankCategory (key : categoryKey c.category = "") : Verdict (.error .blankCategory)
  | action (key : categoryKey c.category ≠ "") (kind : c.kind = .action) :
      Verdict (.error .actionBased)
  | unknown (key : categoryKey c.category ≠ "") (kind : c.kind = .property)
      (unnamed : ∀ category : Category, categoryKey c.category ≠ category.name) :
      Verdict (.error (.unknownCategory (categoryKey c.category)))
  | blankOperator (category : Category) (found : c.InCategory category)
      (name : operatorKey c.operator = "") : Verdict (.error .blankOperator)
  | illegal (category : Category) (found : c.InCategory category)
      (name : operatorKey c.operator ≠ "")
      (unlisted : ∀ o ∈ category.operators, operatorKey c.operator ≠ o.name) :
      Verdict (.error (.illegalOperator category c.operator))
  | listed (category : Category) (operator : Operator) (found : c.Listed category operator)
      {result : Except Rejection.Cause Formula}
      (reads : Reads (c.SlotsFilled now category operator) result) : Verdict result

theorem judge_of_blank (key : categoryKey c.category = "") :
    c.judge now = .error .blankCategory := by
  simp only [judge, key, if_true]

theorem judge_of_action (key : categoryKey c.category ≠ "") (kind : c.kind = .action) :
    c.judge now = .error .actionBased := by
  simp only [judge, key, kind, if_true, if_false]

theorem judge_of_unknown (key : categoryKey c.category ≠ "") (kind : c.kind = .property)
    (unnamed : ∀ category : Category, categoryKey c.category ≠ category.name) :
    c.judge now = .error (.unknownCategory (categoryKey c.category)) := by
  have hnone := (Category.ofKey?_eq_none_iff _).mpr unnamed
  simp only [judge, key, kind, hnone, if_false, reduceCtorEq]

theorem judge_of_inCategory {category : Category} (found : c.InCategory category) :
    c.judge now =
      if operatorKey c.operator = "" then .error .blankOperator
      else
        match category.operator? (operatorKey c.operator) with
        | none => .error (.illegalOperator category c.operator)
        | some operator => c.categoryFormula now category operator := by
  have hkey : categoryKey c.category ≠ "" := found.key ▸ category.name_ne_empty
  have hfound := (Category.ofKey?_eq_some_iff _ category).mpr found.key
  have hkind : c.kind ≠ .action := by simp [found.kind]
  unfold judge
  dsimp only
  rw [if_neg hkey, if_neg hkind]
  split
  · rename_i hnone
    rw [hfound] at hnone
    cases hnone
  · rename_i other hother
    rw [hfound] at hother
    cases hother
    rfl

theorem judge_of_blankOperator {category : Category} (found : c.InCategory category)
    (name : operatorKey c.operator = "") : c.judge now = .error .blankOperator := by
  rw [c.judge_of_inCategory now found, if_pos name]

theorem judge_of_unlisted {category : Category} (found : c.InCategory category)
    (name : operatorKey c.operator ≠ "")
    (unlisted : ∀ o ∈ category.operators, operatorKey c.operator ≠ o.name) :
    c.judge now = .error (.illegalOperator category c.operator) := by
  have hnone := (category.operator?_eq_none_iff _).mpr unlisted
  rw [c.judge_of_inCategory now found, if_neg name, hnone]

theorem judge_of_listed {category : Category} {operator : Operator}
    (found : c.Listed category operator) :
    c.judge now = c.categoryFormula now category operator := by
  have hname : operatorKey c.operator ≠ "" := found.name ▸ operator.name_ne_empty
  have hsome := (category.operator?_eq_some_iff _ operator).mpr ⟨found.listed, found.name⟩
  rw [c.judge_of_inCategory now found.toInCategory, if_neg hname, hsome]

theorem verdict : c.Verdict now (c.judge now) := by
  by_cases key : categoryKey c.category = ""
  · exact c.judge_of_blank now key ▸ .blankCategory key
  cases kind : c.kind with
  | action => exact c.judge_of_action now key kind ▸ .action key kind
  | property =>
      by_cases unnamed : ∀ category : Category, categoryKey c.category ≠ category.name
      · exact c.judge_of_unknown now key kind unnamed ▸ .unknown key kind unnamed
      obtain ⟨category, hcategory⟩ := not_forall_not.mp unnamed
      have found : c.InCategory category := ⟨kind, hcategory⟩
      by_cases name : operatorKey c.operator = ""
      · exact c.judge_of_blankOperator now found name ▸ .blankOperator category found name
      by_cases unlisted : ∀ o ∈ category.operators, operatorKey c.operator ≠ o.name
      · exact c.judge_of_unlisted now found name unlisted ▸ .illegal category found name unlisted
      · push Not at unlisted
        obtain ⟨operator, hlisted, hoperator⟩ := unlisted
        have found : c.Listed category operator := ⟨found, hlisted, hoperator⟩
        exact c.judge_of_listed now found ▸
          .listed category operator found (c.reads_categoryFormula now hlisted)

/-- A condition is rejected, under a kind. -/
def IsRejected (kind : Rejection.Kind) : Prop :=
  ∃ r, c.formula now = .error r ∧ r.kind = kind

theorem accepted_iff_judge : (∃ f, c.formula now = .ok f) ↔ ∃ f, c.judge now = .ok f := by
  unfold formula
  cases c.judge now <;> simp [Except.mapError]

theorem isRejected_iff_judge (kind : Rejection.Kind) :
    c.IsRejected now kind ↔ ∃ cause, c.judge now = .error cause ∧ cause.kind = kind := by
  unfold IsRejected formula
  cases c.judge now <;> simp [Except.mapError, Rejection.kind]

theorem accepted_iff : (∃ f, c.formula now = .ok f) ↔
    ∃ category operator, c.Listed category operator ∧ c.SlotsFilled now category operator := by
  rw [accepted_iff_judge]
  constructor
  · rintro ⟨f, hf⟩
    cases hf ▸ c.verdict now with
    | listed category operator found reads =>
        exact ⟨category, operator, found, reads.ok_iff.mp ⟨f, rfl⟩⟩
  · rintro ⟨category, operator, found, filled⟩
    rw [c.judge_of_listed now found]
    exact (c.reads_categoryFormula now found.listed).ok_iff.mpr filled

theorem unsupportedCategory_iff : c.IsRejected now .unsupportedCategory ↔
    categoryKey c.category ≠ "" ∧
      (c.kind = .action ∨ ∀ category : Category, categoryKey c.category ≠ category.name) := by
  rw [isRejected_iff_judge]
  constructor
  · rintro ⟨cause, hcause, hkind⟩
    cases hcause ▸ c.verdict now with
    | action key kind => exact ⟨key, .inl kind⟩
    | unknown key kind unnamed => exact ⟨key, .inr unnamed⟩
    | listed category operator found reads => simp [reads.incomplete cause rfl] at hkind
    | blankCategory | blankOperator | illegal => simp [Rejection.Cause.kind] at hkind
  · rintro ⟨key, hcase⟩
    cases kind : c.kind with
    | action => exact ⟨_, c.judge_of_action now key kind, rfl⟩
    | property =>
        have unnamed := hcase.resolve_left (by simp [kind])
        exact ⟨_, c.judge_of_unknown now key kind unnamed, rfl⟩

theorem unsupportedOperator_iff : c.IsRejected now .unsupportedOperator ↔
    operatorKey c.operator ≠ "" ∧ ∃ category, c.InCategory category ∧
      ∀ o ∈ category.operators, operatorKey c.operator ≠ o.name := by
  rw [isRejected_iff_judge]
  constructor
  · rintro ⟨cause, hcause, hkind⟩
    cases hcause ▸ c.verdict now with
    | illegal category found name unlisted => exact ⟨name, category, found, unlisted⟩
    | listed category operator found reads => simp [reads.incomplete cause rfl] at hkind
    | blankCategory | action | unknown | blankOperator => simp [Rejection.Cause.kind] at hkind
  · rintro ⟨name, category, found, unlisted⟩
    exact ⟨_, c.judge_of_unlisted now found name unlisted, rfl⟩

theorem incomplete_iff : c.IsRejected now .incomplete ↔
    categoryKey c.category = "" ∨
      (operatorKey c.operator = "" ∧ ∃ category, c.InCategory category) ∨
      ∃ category operator, c.Listed category operator ∧
        ¬ c.SlotsFilled now category operator := by
  rw [isRejected_iff_judge]
  constructor
  · rintro ⟨cause, hcause, hkind⟩
    cases hcause ▸ c.verdict now with
    | blankCategory key => exact .inl key
    | blankOperator category found name => exact .inr (.inl ⟨name, category, found⟩)
    | listed category operator found reads =>
        refine .inr (.inr ⟨category, operator, found, fun filled => ?_⟩)
        obtain ⟨f, hf⟩ := reads.ok_iff.mpr filled
        cases hf
    | action | unknown | illegal => simp [Rejection.Cause.kind] at hkind
  · rintro (key | ⟨name, category, found⟩ | ⟨category, operator, found, unfilled⟩)
    · exact ⟨_, c.judge_of_blank now key, rfl⟩
    · exact ⟨_, c.judge_of_blankOperator now found name, rfl⟩
    · have reads := c.reads_categoryFormula now found.listed
      rw [c.judge_of_listed now found]
      cases hread : c.categoryFormula now category operator with
      | ok f => exact absurd (reads.ok_iff.mp ⟨f, hread⟩) unfilled
      | error cause => exact ⟨cause, rfl, reads.incomplete cause hread⟩

theorem accepted_iff_not_isRejected :
    (∃ f, c.formula now = .ok f) ↔ ∀ kind, ¬ c.IsRejected now kind := by
  unfold IsRejected
  cases c.formula now <;> simp

/-- The catalogue settles what becomes of a condition. It has a formula or is rejected under one of
the kinds, each under an exact condition of its own, and a rejection names the condition and the
category it was looked up under. -/
structure FollowsCatalogue : Prop where
  accepted : (∃ f, c.formula now = .ok f) ↔
    ∃ category operator, c.Listed category operator ∧ c.SlotsFilled now category operator
  decided : (∃ f, c.formula now = .ok f) ↔ ∀ kind, ¬ c.IsRejected now kind
  unsupportedCategory : c.IsRejected now .unsupportedCategory ↔
    categoryKey c.category ≠ "" ∧
      (c.kind = .action ∨ ∀ category : Category, categoryKey c.category ≠ category.name)
  unsupportedOperator : c.IsRejected now .unsupportedOperator ↔
    operatorKey c.operator ≠ "" ∧ ∃ category, c.InCategory category ∧
      ∀ o ∈ category.operators, operatorKey c.operator ≠ o.name
  incomplete : c.IsRejected now .incomplete ↔
    categoryKey c.category = "" ∨
      (operatorKey c.operator = "" ∧ ∃ category, c.InCategory category) ∨
      ∃ category operator, c.Listed category operator ∧ ¬ c.SlotsFilled now category operator
  reported : ∀ r, c.formula now = .error r →
    r.conditionId = c.id ∧ r.category = categoryKey c.category

theorem follows_catalogue : c.FollowsCatalogue now where
  accepted := c.accepted_iff now
  decided := c.accepted_iff_not_isRejected now
  unsupportedCategory := c.unsupportedCategory_iff now
  unsupportedOperator := c.unsupportedOperator_iff now
  incomplete := c.incomplete_iff now
  reported := by
    intro r hr
    cases hjudge : c.judge now with
    | ok f => simp [formula, hjudge, Except.mapError] at hr
    | error cause =>
        simp only [formula, hjudge, Except.mapError, Except.error.injEq] at hr
        simp [← hr]

end Condition

end Targeting
