import Targeting.Proofs.Equality
import Targeting.Proofs.ReadBack
import Targeting.Proofs.WholeNumbers
import Targeting.Store.Change

/-!
Windows of time that conditions reach back by. Number and unit of a condition fix the instant at
which its window begins, or they fix none; the operator has no say in this, it only decides which
side of the instant is meant. So the dates that are there are parted by the window, and the missing
ones are on neither side. A window of whole units begins where the calendar says, for all that it is
measured in binary numbers on the way. Whether a date is in it is a matter of the texts that the
store keeps, of their clocks and of what is written of them.
-/

namespace Targeting

open Number Text

namespace WindowUnit

theorem name_injective : Function.Injective name := by
  intro a b h
  cases a <;> cases b <;> first | rfl | simp [name] at h

theorem dayCount_lt (u : WindowUnit) : u.dayCount < Binary64.significandBound := by
  cases u <;> decide

end WindowUnit

/-- A whole number of days has no part of a day that would be rounded. -/
theorem daysInMicros?_of_isWhole {x : Binary64} {n : Nat} (h : x.IsWhole n) :
    daysInMicros? x = some (n * microsPerDay) := by
  obtain ⟨negative, m, e, rfl, hm⟩ := h
  have hpos := Binary64.ratio_pos m e
  have hratio := Binary64.ratio_of_whole hm
  have heven : (Binary64.ratio m e).1 % (Binary64.ratio m e).2 = 0 := by
    rw [hratio, Nat.mul_mod_left]
  have hrest : (Binary64.ofRatio false 0 (Binary64.ratio m e).2).IsWhole 0 :=
    Binary64.isWhole_ofRatio false hpos (Nat.zero_mul _).symm (by decide)
  obtain ⟨sign, k, f, hpart, hk⟩ :=
    hrest.mul (Binary64.isWhole_ofNat (n := microsPerDay) (by decide)) (by decide)
  have hzero := Binary64.ratio_of_whole hk
  unfold daysInMicros?
  dsimp only
  rw [heven, hpart]
  dsimp only
  rw [hzero, Nat.zero_mul, Nat.zero_mul, Nat.add_zero, roundDiv_mul _ (Binary64.ratio_pos k f),
    hratio, Nat.mul_div_cancel n hpos]

/-- Rounding never takes away from the whole days of a length. -/
theorem le_of_daysInMicros? {negative : Bool} {m n micros : Nat} {e : Int}
    (hn : (n : ℚ) ≤ m * 2 ^ e) (h : daysInMicros? (.finite negative m e) = some micros) :
    n * microsPerDay ≤ micros := by
  have hpos := Binary64.ratio_pos m e
  have hdays : n ≤ (Binary64.ratio m e).1 / (Binary64.ratio m e).2 := by
    rw [← Binary64.ratio_eq, le_div_iff₀ (by positivity)] at hn
    rw [Nat.le_div_iff_mul_le hpos]
    exact_mod_cast hn
  unfold daysInMicros? at h
  dsimp only at h
  split at h
  next sign k f hpart =>
    cases h
    have hgrid := Binary64.ratio_pos k f
    calc n * microsPerDay
        ≤ (Binary64.ratio m e).1 / (Binary64.ratio m e).2 * microsPerDay :=
          Nat.mul_le_mul_right _ hdays
      _ ≤ _ := (Nat.le_div_iff_mul_le hgrid).mpr (Nat.le_add_right _ (Binary64.ratio k f).1)
      _ ≤ _ := div_le_roundDiv _ _
  next => cases h

theorem Moment.daysBack?_eq_some_iff {now start : Moment} {days : Binary64} :
    now.daysBack? days = some start ↔ ∃ micros, daysInMicros? days = some micros ∧
      micros ≤ now.wall ∧ start = ⟨now.wall - micros, now.offset⟩ := by
  unfold daysBack?
  cases daysInMicros? days with
  | none => simp
  | some micros => by_cases hle : micros ≤ now.wall <;> simp [hle, eq_comm]

/-- The columns that conditions about dates compare. -/
def Category.dateColumn? : Category → Option TimeColumn
  | .subscribed => some .subscribedAt
  | .lastSeen => some .lastSeenAt
  | _ => none

/-- The side of the cutoff that an operator with a window asks for. -/
def Operator.side? : Operator → Option TimeRelation
  | .inLast | .lessThanAgo => some .since
  | .moreThanAgo => some .before
  | _ => none

/-- How the dates lie that a relation to a bound asks for. -/
def TimeRelation.Holds (r : TimeRelation) (bound : Instant) (t : StoredTime) : Prop :=
  match r with
  | .before => t.IsBefore bound
  | .after => bound < t.wall
  | .since => ¬ t.IsBefore bound

theorem TimeRelation.relates_iff (r : TimeRelation) {bound : Moment} (h : bound.wall < calendarEnd)
    (t : StoredTime) : r.relates bound.storedText t.text = true ↔ r.Holds bound.wall t := by
  cases r with
  | before => rw [relates, Holds, decide_eq_true_iff, Moment.text_lt_storedText_iff h]
  | after => rw [relates, Holds, decide_eq_true_iff, Moment.storedText_lt_text_iff h]
  | since => rw [relates, Holds, decide_eq_true_iff, ← Moment.text_lt_storedText_iff h, not_lt]

theorem Formula.eval_time_eq_yes (u : Subscriber) (column : TimeColumn) (r : TimeRelation)
    {bound : Moment} (h : bound.wall < calendarEnd) :
    (test (.time column r bound)).eval u = .yes ↔
      ∃ t, column.of u = some t ∧ r.Holds bound.wall t := by
  have hrelates := r.relates_iff h
  simp only [eval, Test.eval, Truth.ofColumn_eq_yes, hrelates]

namespace Condition

/-- Two conditions hold the same in the slots that fix a window. -/
structure SameWindow (c d : Condition) : Prop where
  number : c.number = d.number
  unit : c.unit = d.unit

/-- The window of the condition is a natural number of units. -/
structure Spans (c : Condition) (n : Nat) (u : WindowUnit) : Prop where
  number : ∃ x, c.number = some x ∧ x.toInt? = some (n : Int)
  unit : ∃ written, c.unit = some written ∧ lower (trim written) = u.name

variable {c d : Condition} {now : Moment} {category : Category} {column : TimeColumn}
  {operator : Operator} {side : TimeRelation} {f : Formula}

theorem SameWindow.fixesWindow {number : Binary64} {u : WindowUnit} {micros : Nat}
    (hsame : c.SameWindow d) (h : d.FixesWindow now number u micros) :
    c.FixesWindow now number u micros where
  given := hsame.number.trans h.given
  isLength := h.isLength
  named := hsame.unit ▸ h.named
  length := h.length
  reached := h.reached

theorem fixesWindow_of_cutoff {start : Moment} (h : c.cutoff operator now = .ok start) :
    ∃ number u micros, c.FixesWindow now number u micros ∧
      start = ⟨now.wall - micros, now.offset⟩ := by
  unfold cutoff at h
  split at h
  next number written hnumber hunit =>
    split_ifs at h with hblank hfinite hnegative
    split at h
    next => cases h
    next u hu =>
      split at h
      next => cases h
      next moment hback =>
        cases h
        obtain ⟨micros, hmicros, hreached, hstart⟩ := Moment.daysBack?_eq_some_iff.mp hback
        have hlength : number.IsLength := by
          rw [Binary64.isLength_iff]
          simpa using And.intro hfinite hnegative
        have hname := (WindowUnit.ofName?_eq_some_iff _ u).mp hu
        exact ⟨number, u, micros, ⟨hnumber, hlength, ⟨written, hunit, hname⟩, hmicros, hreached⟩,
          hstart⟩
  next => cases h

theorem FixesWindow.micros_eq {x y : Binary64} {u v : WindowUnit} {m n : Nat}
    (h : c.FixesWindow now x u m) (h' : c.FixesWindow now y v n) : m = n := by
  obtain rfl : x = y := Option.some.inj (h.given.symm.trans h'.given)
  obtain ⟨written, hwritten, hname⟩ := h.named
  obtain ⟨other, hother, hname'⟩ := h'.named
  obtain rfl : written = other := Option.some.inj (hwritten.symm.trans hother)
  obtain rfl : u = v := WindowUnit.name_injective (hname.symm.trans hname')
  exact Option.some.inj (h.length.symm.trans h'.length)

/-- The operator has no say in where a window begins. -/
theorem FixesWindow.cutoff_eq {number : Binary64} {u : WindowUnit} {micros : Nat}
    (h : c.FixesWindow now number u micros) (operator : Operator) :
    c.cutoff operator now = .ok ⟨now.wall - micros, now.offset⟩ := by
  obtain ⟨start, hstart⟩ := (c.reads_cutoff now operator).ok_iff.mpr ⟨number, u, micros, h⟩
  obtain ⟨_, _, other, hother, rfl⟩ := fixesWindow_of_cutoff hstart
  rw [hstart, h.micros_eq hother]

theorem dateFormula_of_side (hside : operator.side? = some side) :
    c.dateFormula column now operator =
      (c.cutoff operator now).map fun bound => .test (.time column side bound) := by
  cases operator <;> cases hside <;> rfl

theorem categoryFormula_of_dateColumn (hcolumn : category.dateColumn? = some column) :
    c.categoryFormula now category operator = c.dateFormula column now operator := by
  cases category <;> cases hcolumn <;> rfl

theorem formula_of_window (found : c.Listed category operator)
    (hcolumn : category.dateColumn? = some column) (hside : operator.side? = some side)
    {number : Binary64} {u : WindowUnit} {micros : Nat}
    (h : c.FixesWindow now number u micros) :
    c.formula now = .ok (.test (.time column side ⟨now.wall - micros, now.offset⟩)) := by
  rw [formula_eq_ok_iff, c.judge_of_listed now found, categoryFormula_of_dateColumn hcolumn,
    dateFormula_of_side hside, h.cutoff_eq]
  rfl

theorem isRejected_of_not_hasWindow (found : c.Listed category operator)
    (hside : operator.side? = some side) (h : ¬ c.HasWindow now) :
    c.IsRejected now .incomplete := by
  refine (c.incomplete_iff now).mpr (.inr (.inr ⟨category, operator, found, ?_⟩))
  cases operator with
  | inLast | lessThanAgo | moreThanAgo => exact h
  | _ => cases hside

theorem hasWindow_of_formula (found : c.Listed category operator)
    (hside : operator.side? = some side) (h : c.formula now = .ok f) : c.HasWindow now := by
  by_contra hnone
  obtain ⟨r, hr, -⟩ := isRejected_of_not_hasWindow found hside hnone
  rw [h] at hr
  cases hr

/-- On the way a length in units is a binary number. As long as the calendar can hold it, it is
exact. -/
theorem Spans.micros_eq {n micros : Nat} {u v : WindowUnit} {number : Binary64}
    (h : c.Spans n u) (hnow : now.wall < calendarEnd)
    (hwindow : c.FixesWindow now number v micros) :
    micros = n * u.dayCount * microsPerDay := by
  obtain ⟨x, hx, hwhole⟩ := h.number
  obtain ⟨written, hwritten, hname⟩ := h.unit
  obtain rfl : x = number := Option.some.inj (hx.symm.trans hwindow.given)
  obtain ⟨other, hother, hname'⟩ := hwindow.named
  obtain rfl : written = other := Option.some.inj (hwritten.symm.trans hother)
  obtain rfl : u = v := WindowUnit.name_injective (hname.symm.trans hname')
  have hnumber := (Binary64.isWhole_of_toInt? hwhole).1
  have hdays : (Binary64.ofNat u.dayCount).IsWhole u.dayCount :=
    Binary64.isWhole_ofNat u.dayCount_lt
  have hlength := hwindow.length
  unfold WindowUnit.span at hlength
  rcases Nat.lt_or_ge (n * u.dayCount) Binary64.significandBound with hsmall | hlarge
  · rw [daysInMicros?_of_isWhole (hnumber.mul hdays hsmall)] at hlength
    exact (Option.some.inj hlength).symm
  · rcases hnumber.mul_of_large hdays hlarge with ⟨negative, hout⟩ | ⟨negative, m, e, hout, hm⟩
    · rw [hout] at hlength
      cases hlength
    · rw [hout] at hlength
      have hbeyond := le_of_daysInMicros? hm hlength
      have hreached := hwindow.reached
      have hcalendar : calendarEnd ≤ Binary64.significandBound * microsPerDay := by decide
      exact absurd (hbeyond.trans hreached) (Nat.not_le.mpr (hnow.trans_le hcalendar))

theorem Spans.exists_fixesWindow {n : Nat} {u : WindowUnit} (h : c.Spans n u)
    (hnow : now.wall < calendarEnd) (hreached : n * u.dayCount * microsPerDay ≤ now.wall) :
    ∃ number, c.FixesWindow now number u (n * u.dayCount * microsPerDay) := by
  obtain ⟨x, hx, hwhole⟩ := h.number
  obtain ⟨hnumber, hsign⟩ := Binary64.isWhole_of_toInt? hwhole
  have hfinite : x.isFinite = true := by
    obtain ⟨negative, m, e, rfl, -⟩ := hnumber
    rfl
  have hsmall : n * u.dayCount < Binary64.significandBound := by
    have hbelow : n * u.dayCount * microsPerDay < 3652059 * microsPerDay := hreached.trans_lt hnow
    have hdays := Nat.lt_of_mul_lt_mul_right hbelow
    exact hdays.trans (by decide)
  have hdays : (Binary64.ofNat u.dayCount).IsWhole u.dayCount :=
    Binary64.isWhole_ofNat u.dayCount_lt
  exact ⟨x, hx, (Binary64.isLength_iff x).mpr ⟨hfinite, hsign⟩, h.unit,
    daysInMicros?_of_isWhole (hnumber.mul hdays hsmall), hreached⟩

/-- Three conditions about one date that have a window in common. -/
structure WindowTrio (category : Category) (within less more : Condition) : Prop where
  listedWithin : within.Listed category .inLast
  listedLess : less.Listed category .lessThanAgo
  listedMore : more.Listed category .moreThanAgo
  sameLess : less.SameWindow within
  sameMore : more.SameWindow within

/-- Two of three statements about a date hold of the dates in the window and one of those before
it. A date that is not there is in no statement. -/
structure PartsDates (start : Instant) (date : Option StoredTime) (within less more : Prop) :
    Prop where
  within_iff : within ↔ ∃ t, date = some t ∧ ¬ t.IsBefore start
  less_iff : less ↔ within
  more_iff : more ↔ ∃ t, date = some t ∧ t.IsBefore start
  one : date ≠ none → (within ∧ ¬ more) ∨ (more ∧ ¬ within)
  neither : date = none → ¬ within ∧ ¬ less ∧ ¬ more
  /-- A date that was handed over is where its clock was. -/
  handedOver : ∀ m : Moment, m.wall < calendarEnd → date = StoredTime.ofText? m.storedText →
    (more ↔ m.wall < start)
  /-- A date that the store filled in is before all that lies in its second. -/
  filledIn : ∀ m : Moment, m.instant < calendarEnd → date = StoredTime.ofText? m.filledText →
    (more ↔ m.instant / microsPerSecond * microsPerSecond ≤ start)

theorem partsDates {start : Instant} {date : Option StoredTime} {within less more : Prop}
    (hwithin : within ↔ ∃ t, date = some t ∧ ¬ t.IsBefore start)
    (hless : less ↔ ∃ t, date = some t ∧ ¬ t.IsBefore start)
    (hmore : more ↔ ∃ t, date = some t ∧ t.IsBefore start) :
    PartsDates start date within less more where
  within_iff := hwithin
  less_iff := hless.trans hwithin.symm
  more_iff := hmore
  one := by
    intro hdate
    obtain ⟨t, rfl⟩ := Option.ne_none_iff_exists'.mp hdate
    rw [hwithin, hmore]
    simp only [Option.some.injEq, exists_eq_left', not_not, and_self]
    exact (em (t.IsBefore start)).symm
  neither := by
    rintro rfl
    simp [hwithin, hless, hmore]
  handedOver := by
    intro m h hdate
    rw [hmore, hdate, StoredTime.ofText?_storedText h]
    simp only [Option.some.injEq, exists_eq_left', Moment.isBefore_kept_iff]
  filledIn := by
    intro m h hdate
    rw [hmore, hdate, StoredTime.ofText?_filledText h]
    simp only [Option.some.injEq, exists_eq_left', Moment.isBefore_filled_iff]

/-- Where the common window of three conditions begins, if it begins anywhere, and what follows from
it. -/
structure ShareWindow (now : Instant) (category : Category) (column : TimeColumn)
    (within less more : Condition) (start? : Option Instant) : Prop where
  rejected : start? = none →
    ∀ c ∈ [within, less, more], c.IsRejected (.ofInstant now) .incomplete
  accepted : ∀ start, start? = some start → ∃ f g h, within.formula (.ofInstant now) = .ok f ∧
    less.formula (.ofInstant now) = .ok g ∧ more.formula (.ofInstant now) = .ok h ∧
    ∀ s : Subscriber,
      PartsDates start (column.of s) (f.eval s = .yes) (g.eval s = .yes) (h.eval s = .yes)
  /-- Whole units are counted back from the reference time to the microsecond, as far as the
  calendar goes. -/
  whole : ∀ n u, within.Spans n u → start? =
    if n * u.dayCount * microsPerDay ≤ now then some (now - n * u.dayCount * microsPerDay)
    else none
  nested : ∀ n m u (longer : Condition), within.Spans n u → longer.Spans m u → n ≤ m →
    longer.Listed category .inLast → ∀ f g, within.formula (.ofInstant now) = .ok f →
      longer.formula (.ofInstant now) = .ok g →
        ∀ s : Subscriber, f.eval s = .yes → g.eval s = .yes

/-- A longer window holds all dates of a shorter one. -/
theorem eval_of_longer {n m : Nat} {u : WindowUnit} {f g : Formula} (hnow : now.wall < calendarEnd)
    (hcolumn : category.dateColumn? = some column) (hc : c.Listed category .inLast)
    (hd : d.Listed category .inLast) (hn : c.Spans n u) (hm : d.Spans m u) (hle : n ≤ m)
    (hf : c.formula now = .ok f) (hg : d.formula now = .ok g) {s : Subscriber}
    (h : f.eval s = .yes) : g.eval s = .yes := by
  obtain ⟨_, _, short, hshort⟩ := hasWindow_of_formula hc rfl hf
  obtain ⟨_, _, long, hlong⟩ := hasWindow_of_formula hd rfl hg
  rw [formula_of_window hc hcolumn rfl hshort] at hf
  rw [formula_of_window hd hcolumn rfl hlong] at hg
  cases hf
  cases hg
  rw [Formula.eval_time_eq_yes _ _ _ ((Nat.sub_le _ _).trans_lt hnow)] at h ⊢
  obtain ⟨t, ht, hstart⟩ := h
  have hlonger : short ≤ long := by
    rw [hn.micros_eq hnow hshort, hm.micros_eq hnow hlong]
    exact Nat.mul_le_mul_right _ (Nat.mul_le_mul_right _ hle)
  exact ⟨t, ht, fun hbefore => hstart (hbefore.mono (Nat.sub_le_sub_left hlonger now.wall))⟩

/-- Conditions that share a window are all rejected as incomplete, or they all part the dates at one
instant. For a natural number of units it is the instant that lies these units back from the
reference time, and they are accepted exactly if the calendar has it. -/
theorem windows_part_dates (now : Instant) (hnow : now < calendarEnd) (category : Category)
    (column : TimeColumn) (hcolumn : category.dateColumn? = some column)
    (within less more : Condition) (trio : WindowTrio category within less more) :
    ∃ start?, ShareWindow now category column within less more start? := by
  have hnested : ∀ n m u (longer : Condition), within.Spans n u → longer.Spans m u → n ≤ m →
      longer.Listed category .inLast → ∀ f g, within.formula (.ofInstant now) = .ok f →
        longer.formula (.ofInstant now) = .ok g →
          ∀ s : Subscriber, f.eval s = .yes → g.eval s = .yes := by
    intro n m u longer hn hm hle hlonger f g hf hg s
    exact eval_of_longer hnow hcolumn trio.listedWithin hlonger hn hm hle hf hg
  by_cases hwindow : within.HasWindow (.ofInstant now)
  · obtain ⟨number, v, micros, hfixes⟩ := hwindow
    refine ⟨some (now - micros), ?_, ?_, ?_, hnested⟩
    · rintro ⟨⟩
    · rintro start ⟨⟩
      refine ⟨_, _, _, formula_of_window trio.listedWithin hcolumn rfl hfixes,
        formula_of_window trio.listedLess hcolumn rfl (trio.sameLess.fixesWindow hfixes),
        formula_of_window trio.listedMore hcolumn rfl (trio.sameMore.fixesWindow hfixes), ?_⟩
      intro s
      have hstart : now - micros < calendarEnd := (Nat.sub_le _ _).trans_lt hnow
      exact partsDates (Formula.eval_time_eq_yes s column .since hstart)
        (Formula.eval_time_eq_yes s column .since hstart)
        (Formula.eval_time_eq_yes s column .before hstart)
    · intro n u hspans
      have hreached : micros ≤ now := hfixes.reached
      rw [← hspans.micros_eq hnow hfixes, if_pos hreached]
  · have hless : ¬ less.HasWindow (.ofInstant now) := by
      rintro ⟨number, u, micros, h⟩
      have hsame : within.SameWindow less := ⟨trio.sameLess.number.symm, trio.sameLess.unit.symm⟩
      exact hwindow ⟨number, u, micros, hsame.fixesWindow h⟩
    have hmore : ¬ more.HasWindow (.ofInstant now) := by
      rintro ⟨number, u, micros, h⟩
      have hsame : within.SameWindow more := ⟨trio.sameMore.number.symm, trio.sameMore.unit.symm⟩
      exact hwindow ⟨number, u, micros, hsame.fixesWindow h⟩
    refine ⟨none, ?_, ?_, ?_, hnested⟩
    · intro _
      simp only [List.forall_mem_cons]
      exact ⟨isRejected_of_not_hasWindow trio.listedWithin rfl hwindow,
        isRejected_of_not_hasWindow trio.listedLess rfl hless,
        isRejected_of_not_hasWindow trio.listedMore rfl hmore, by simp⟩
    · rintro start ⟨⟩
    · intro n u hspans
      symm
      rw [if_neg]
      intro hreached
      have hfixes : ∃ number, within.FixesWindow (.ofInstant now) number u _ :=
        hspans.exists_fixesWindow hnow hreached
      obtain ⟨number, hfixes⟩ := hfixes
      exact hwindow ⟨number, u, _, hfixes⟩

/-- Asks about the last month, with names that are not written as the catalogue writes them. -/
def lastMonth (operator : String) : Condition :=
  ⟨"c", .property, "Subscribed", operator, none, some (.ofNat 1), none, some " Months ", none, none,
    none, none⟩

/-- A month into the calendar, the window of a month begins with the calendar. -/
theorem windows_part_dates_firstMonth :
    ShareWindow (30 * microsPerDay) .subscribed .subscribedAt (lastMonth "in_last")
      (lastMonth "less_than_ago") (lastMonth "more_than_ago") (some 0) := by
  have hcategory : categoryKey "Subscribed" = Category.subscribed.name := by decide +kernel
  have hunit : lower (trim " Months ") = WindowUnit.months.name := by decide +kernel
  have trio : WindowTrio .subscribed (lastMonth "in_last") (lastMonth "less_than_ago")
      (lastMonth "more_than_ago") :=
    ⟨⟨⟨rfl, hcategory⟩, by decide, by decide +kernel⟩,
      ⟨⟨rfl, hcategory⟩, by decide, by decide +kernel⟩,
      ⟨⟨rfl, hcategory⟩, by decide, by decide +kernel⟩, ⟨rfl, rfl⟩, ⟨rfl, rfl⟩⟩
  obtain ⟨start?, hshare⟩ := windows_part_dates (30 * microsPerDay) (by decide) .subscribed
    .subscribedAt rfl (lastMonth "in_last") (lastMonth "less_than_ago")
    (lastMonth "more_than_ago") trio
  have hspans : (lastMonth "in_last").Spans 1 .months :=
    ⟨⟨_, rfl, by decide +kernel⟩, ⟨_, rfl, hunit⟩⟩
  have hstart : start? = some 0 := hshare.whole 1 .months hspans
  exact hstart ▸ hshare

def lastDayOfMay : Date := ⟨2025, 5, 31, by decide, by decide, by decide, by decide⟩

/-- Who is there after two subscribers were inserted at the beginning of a day. Nobody says when the
one subscribed; the other did so hours ago, where the clock already showed the new day. -/
def newcomers : Option (List Subscriber) :=
  let rows : List NewRow :=
    [⟨.subscribers, [("id", .text "filled"), ("merchant_id", .text "m1")]⟩,
      ⟨.subscribers, [("id", .text "ahead"), ("merchant_id", .text "m1"),
        ("subscribed_at", .text "2025-05-31T02:00:00+05:00")]⟩]
  let database : Database := ⟨.empty, [], true, none⟩
  (database.insert (.ofInstant lastDayOfMay.midnight) rows).toOption.map (·.store.subscribers)

/-- The newcomers that a condition selects at a time. -/
def selectsOfNewcomers (c : Condition) (now : Moment) : Option (List String) :=
  (c.formula now).toOption.bind fun f =>
    newcomers.map fun subscribers => (subscribers.filter f.selects).map (·.id)

def lastDay (operator : String) : Condition :=
  ⟨"c", .property, "subscribed", operator, none, some (.ofNat 1), none, some "days", none, none,
    none, none⟩

/-- One day later the window of a day begins where the day began. A date that was filled in at this
very instant is not in it, and an earlier one that was handed over by another clock is. -/
theorem window_misplaces_newcomers :
    let now := Moment.ofInstant (lastDayOfMay.midnight + microsPerDay)
    (lastDay "in_last").cutoff .inLast now = .ok (.ofInstant lastDayOfMay.midnight) ∧
      ((Moment.read "2025-05-31T02:00:00+05:00").toOption.map fun m =>
        decide (m.instant < lastDayOfMay.midnight)) = some true ∧
      selectsOfNewcomers (lastDay "in_last") now = some ["ahead"] ∧
      selectsOfNewcomers (lastDay "more_than_ago") now = some ["filled"] := by
  refine ⟨?_, ?_, ?_, ?_⟩
  all_goals decide +kernel

end Condition

end Targeting
