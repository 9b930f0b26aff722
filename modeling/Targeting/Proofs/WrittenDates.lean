import Mathlib.Data.List.TakeWhile
import Targeting.Condition.Reader

/-!
A calendar date comes back from what is made of it: from its text, and from the number of its day.
The text has a fixed width, so that each of its digits is found at a place of its own. The days are
counted in cycles of four hundred, a hundred and four years, of which the last year or century alone
is a day off.
-/

namespace Targeting

open Number

namespace Number

theorem toList_padded_one {n : Nat} (hn : n < 10) : (padded 1 n).toList = [Nat.digitChar n] := by
  simp [padded, Nat.toDigits_of_lt_base hn]

/-- The last digit of a padded number stands behind the padded number without it. -/
theorem toList_padded_succ {w : Nat} (hw : 0 < w) (n : Nat) :
    (padded (w + 1) n).toList = (padded w (n / 10)).toList ++ [Nat.digitChar (n % 10)] := by
  unfold padded
  simp only [String.toList_ofList]
  rcases Nat.lt_or_ge n 10 with hsmall | hlarge
  · have hzero : n / 10 = 0 := by omega
    have hsame : n % 10 = n := by omega
    have hfront : List.replicate w '0' = List.replicate (w - 1) '0' ++ ['0'] := by
      rw [← List.replicate_succ', Nat.sub_add_cancel hw]
    rw [hzero, hsame, Nat.toDigits_of_lt_base hsmall, Nat.toDigits_zero]
    simp [hfront]
  · have hdigits : Nat.toDigits 10 n = Nat.toDigits 10 (n / 10) ++ [Nat.digitChar (n % 10)] := by
      have hlast : n % 10 < 10 := Nat.mod_lt _ (by omega)
      rw [← Nat.toDigits_of_lt_base hlast,
        Nat.toDigits_append_toDigits (by omega) (by omega) hlast, Nat.div_add_mod]
    rw [hdigits]
    simp [Nat.add_sub_add_right]

end Number

namespace Text

theorem points_of_ascii {s : String} (h : ∀ c ∈ s.toList, c.toNat < 0x80) :
    points s = s.toList.map Char.toNat := by
  unfold points
  generalize s.toList = cs at h
  induction cs with
  | nil => rfl
  | cons c cs ih =>
      have hc := h c (by simp)
      have hmark : c ≠ mark := by
        rintro rfl
        exact absurd hc (by decide)
      rw [pointsOf_cons hmark, ih fun d hd => h d (by simp [hd]), List.map_cons]

theorem bytesOf_of_ascii {s : String} (h : ∀ c ∈ s.toList, c.toNat < 0x80) :
    bytesOf s = s.toList.map Char.toNat := by
  have hbytes : ∀ c ∈ s.toList, utf8Bytes c.toNat = [c.toNat] := fun c hc => if_pos (h c hc)
  rw [bytesOf, points_of_ascii h, List.flatMap_map, List.map_eq_flatMap, List.flatMap, List.flatMap,
    List.map_congr_left hbytes]

theorem isEncodable_of_ascii {s : String} (h : ∀ c ∈ s.toList, c.toNat < 0x80) :
    isEncodable s = true := by
  have hlow : ∀ c ∈ s.toList, isSurrogate c.toNat = false := by
    intro c hc
    have hsmall := h c hc
    simp only [isSurrogate, isHighSurrogate, isLowSurrogate, Bool.or_eq_false_iff,
      Bool.and_eq_false_iff, decide_eq_false_iff_not]
    omega
  simp only [isEncodable, points_of_ascii h, Bool.not_eq_true', List.any_map, List.any_eq_false,
    Function.comp_apply, Bool.not_eq_true]
  exact hlow

end Text

namespace Date

variable (d : Date)

theorem month_bounds : 1 ≤ d.month ∧ d.month ≤ 12 := by
  have hday := d.day_ge.trans d.day_le
  unfold daysInMonth at hday
  split at hday
  all_goals omega

theorem day_le_31 : d.day ≤ 31 := by
  have hday := d.day_le
  unfold daysInMonth at hday
  split at hday
  all_goals try split at hday
  all_goals omega

/-- The characters of a date's text, each at its place. -/
theorem toList_text : d.text.toList =
    [Nat.digitChar (d.year / 10 / 10 / 10), Nat.digitChar (d.year / 10 / 10 % 10),
      Nat.digitChar (d.year / 10 % 10), Nat.digitChar (d.year % 10), '-',
      Nat.digitChar (d.month / 10), Nat.digitChar (d.month % 10), '-',
      Nat.digitChar (d.day / 10), Nat.digitChar (d.day % 10)] := by
  have hyear := d.year_le
  have hmonth := d.month_bounds
  have hday := d.day_le_31
  have hthousands : d.year / 10 / 10 / 10 < 10 := by omega
  have htwo : ∀ {n}, n < 100 →
      (padded 2 n).toList = [Nat.digitChar (n / 10), Nat.digitChar (n % 10)] := by
    intro n hn
    have htens : n / 10 < 10 := by omega
    rw [toList_padded_succ (by omega), toList_padded_one htens]
    rfl
  have hfour : (padded 4 d.year).toList =
      [Nat.digitChar (d.year / 10 / 10 / 10), Nat.digitChar (d.year / 10 / 10 % 10),
        Nat.digitChar (d.year / 10 % 10), Nat.digitChar (d.year % 10)] := by
    rw [toList_padded_succ (by omega), toList_padded_succ (by omega),
      toList_padded_succ (by omega), toList_padded_one hthousands]
    rfl
  have hmonthText := htwo (show d.month < 100 by omega)
  have hdayText := htwo (show d.day < 100 by omega)
  simp [text, hfour, hmonthText, hdayText]

/-- Nothing but digits and hyphens. -/
theorem toNat_le_of_mem_text {c : Char} (hc : c ∈ d.text.toList) : c.toNat ≤ 57 := by
  have hyear := d.year_le
  have hmonth := d.month_bounds
  have hday := d.day_le_31
  have hdigit : ∀ {k}, k < 10 → (Nat.digitChar k).toNat ≤ 57 := by
    intro k hk
    rw [Nat.toNat_digitChar_of_lt_ten hk]
    omega
  have hhyphen : '-'.toNat ≤ 57 := by decide
  simp only [toList_text, List.mem_cons, List.not_mem_nil, or_false] at hc
  rcases hc with rfl | rfl | rfl | rfl | rfl | rfl | rfl | rfl | rfl | rfl
  all_goals first | exact hhyphen | exact hdigit (by omega)

theorem ascii_text : ∀ c ∈ d.text.toList, c.toNat < 0x80 := by
  intro c hc
  have hle := d.toNat_le_of_mem_text hc
  omega

theorem bytesOf_text : Text.bytesOf d.text =
    [48 + d.year / 10 / 10 / 10, 48 + d.year / 10 / 10 % 10, 48 + d.year / 10 % 10,
      48 + d.year % 10, DateReader.hyphen, 48 + d.month / 10, 48 + d.month % 10,
      DateReader.hyphen, 48 + d.day / 10, 48 + d.day % 10] := by
  have hyear := d.year_le
  have hmonth := d.month_bounds
  have hday := d.day_le_31
  have hdigit : ∀ {k}, k < 10 → (Nat.digitChar k).toNat = 48 + k := fun h =>
    Nat.toNat_digitChar_of_lt_ten h
  have hhyphen : '-'.toNat = DateReader.hyphen := rfl
  rw [Text.bytesOf_of_ascii d.ascii_text, toList_text]
  simp only [List.map_cons, List.map_nil, hhyphen]
  repeat rw [hdigit (by omega)]

end Date

namespace DateReader

theorem twoDigits_eq {bytes : List Nat} {i a b : Nat} (fault : DateFault)
    (hfirst : bytes[i]? = some (48 + a)) (hsecond : bytes[i + 1]? = some (48 + b)) (ha : a < 10)
    (hb : b < 10) : twoDigits bytes i fault = .ok (10 * a + b) := by
  have hdigit : ∀ {j k : Nat}, bytes[j]? = some (48 + k) → k < 10 →
      digitAt bytes j fault = .ok k := by
    intro j k hj hk
    simp only [digitAt, hj]
    rw [if_pos (by omega), Nat.add_sub_cancel_left]
  simp only [twoDigits, hdigit hfirst ha, hdigit hsecond hb]
  rfl

theorem markAt_eq {bytes : List Nat} {i c : Nat} (fault : DateFault) (h : bytes[i]? = some c) :
    markAt bytes i c fault = .ok () :=
  if_pos h

theorem dateParts_text (d : Date) :
    dateParts (Text.bytesOf d.text) = .ok (d.year, d.month, d.day) := by
  have hyear := d.year_le
  obtain ⟨hmonth, hmonth'⟩ := d.month_bounds
  have hday := d.day_le_31
  have hcentury : 10 * (d.year / 10 / 10 / 10) + d.year / 10 / 10 % 10 = d.year / 100 := by omega
  have hinCentury : 10 * (d.year / 10 % 10) + d.year % 10 = d.year % 100 := by omega
  have hmonthValue : 10 * (d.month / 10) + d.month % 10 = d.month := by omega
  have hdayValue : 10 * (d.day / 10) + d.day % 10 = d.day := by omega
  have hmonthRange : ¬ (d.month = 0 ∨ 12 < d.month) := by omega
  have hdayRange : ¬ (d.day = 0 ∨ daysInMonth d.year d.month < d.day) := by
    have hge := d.day_ge
    have hle := d.day_le
    omega
  rw [Date.bytesOf_text]
  unfold dateParts
  rw [twoDigits_eq .yearDigit rfl rfl (by omega) (by omega), hcentury]
  rw [twoDigits_eq .yearDigit rfl rfl (by omega) (by omega), hinCentury, markAt_eq _ rfl,
    twoDigits_eq .monthDigit rfl rfl (by omega) (by omega), hmonthValue, markAt_eq _ rfl,
    twoDigits_eq .dayDigit rfl rfl (by omega) (by omega), hdayValue]
  simp [bind, Except.bind, pure, Except.pure, Nat.div_add_mod, hmonthRange, hdayRange]

theorem ofText_text (d : Date) : ofText d.text = .ok d := by
  have hlength : (Text.bytesOf d.text).length = 10 := by
    rw [Date.bytesOf_text]
    rfl
  have hday : Date.ofParts? d.year d.month d.day = some d :=
    dif_pos ⟨d.year_ge, d.year_le, d.day_ge, d.day_le⟩
  have hplain : ofPlainDate? (Text.bytesOf d.text) = some (.ok d) := by
    simp [ofPlainDate?, hlength, dateParts_text, hday]
  simp [ofText, hplain]

end DateReader

namespace Date

/-- A text that begins with the date. Whatever stands behind its `T` is of no account. -/
def IsWrittenAs (d : Date) (s : String) : Prop :=
  s = d.text ∨ ∃ t, s = d.text ++ "T" ++ t

variable {d : Date} {s : String}

theorem IsWrittenAs.beforeTime_eq (h : d.IsWrittenAs s) : Condition.beforeTime s = d.text := by
  have hfront : ∀ c ∈ d.text.toList, (c != 'T') = true := by
    intro c hc
    have hle := d.toNat_le_of_mem_text hc
    rw [bne_iff_ne]
    rintro rfl
    exact absurd hle (by decide)
  unfold Condition.beforeTime
  rcases h with rfl | ⟨t, rfl⟩
  · rw [List.takeWhile_eq_self_iff.mpr hfront, String.ofList_toList]
  · rw [String.toList_append, String.toList_append, List.append_assoc,
      List.takeWhile_append_of_pos hfront]
    simp

theorem IsWrittenAs.readDate (h : d.IsWrittenAs s) :
    Condition.readDate (.text s) = .ok (some d) := by
  have hne : s ≠ "" := by
    intro hempty
    have hlist := d.toList_text
    rw [← h.beforeTime_eq, hempty] at hlist
    cases hlist
  unfold Condition.readDate
  simp only [h.beforeTime_eq, hne, if_false, Text.isEncodable_of_ascii d.ascii_text,
    Bool.not_true, Bool.false_eq_true, DateReader.ofText_text]
  rfl

theorem daysBeforeMonth_succ (year : Nat) {month : Nat} (h : 1 ≤ month) :
    daysBeforeMonth year (month + 1) = daysBeforeMonth year month + daysInMonth year month := by
  obtain ⟨m, rfl⟩ := Nat.exists_eq_add_of_le' h
  simp [daysBeforeMonth, List.range_succ]

theorem daysBeforeMonth_mono (year : Nat) {a b : Nat} (ha : 1 ≤ a) (hab : a ≤ b) :
    daysBeforeMonth year a ≤ daysBeforeMonth year b := by
  induction b, hab using Nat.le_induction with
  | base => exact Nat.le_refl _
  | succ b hb ih =>
      rw [daysBeforeMonth_succ year (ha.trans hb)]
      exact ih.trans (Nat.le_add_right _ _)

theorem daysBeforeMonth_end (year : Nat) :
    daysBeforeMonth year 13 = if isLeapYear year then 366 else 365 := by
  simp only [daysBeforeMonth, List.range, List.range.loop, List.foldl, daysInMonth]
  split <;> rfl

/-- Taking away the months in front leaves the day of the month. -/
theorem monthOfDay_eq {year month day : Nat} (hday : 1 ≤ day)
    (hlength : day ≤ daysInMonth year month) (fuel start rest : Nat) (hstart : 1 ≤ start)
    (hle : start ≤ month) (hfuel : month ≤ start + fuel)
    (hrest : daysBeforeMonth year start + rest = daysBeforeMonth year month + (day - 1)) :
    monthOfDay year fuel start rest = (month, day) := by
  induction fuel generalizing start rest with
  | zero =>
      obtain rfl : start = month := by omega
      have hsame : rest + 1 = day := by omega
      simp [monthOfDay, hsame]
  | succ fuel ih =>
      rcases hle.eq_or_lt with rfl | hlt
      · have hsame : rest + 1 = day := by omega
        have hshort : rest < daysInMonth year start := by omega
        simp [monthOfDay, hsame, hshort]
      · have hnext := daysBeforeMonth_succ year hstart
        have hmono : daysBeforeMonth year (start + 1) ≤ daysBeforeMonth year month :=
          daysBeforeMonth_mono year (by omega) hlt
        have hlong : ¬ rest < daysInMonth year start := by omega
        simp only [monthOfDay, if_neg hlong]
        exact ih (start + 1) _ (by omega) hlt (by omega) (by omega)

variable (d : Date)

theorem daysBeforeMonth_add_day_le :
    daysBeforeMonth d.year d.month + d.day ≤ if isLeapYear d.year then 366 else 365 := by
  obtain ⟨hmonth, hmonth'⟩ := d.month_bounds
  have hlater : daysBeforeMonth d.year (d.month + 1) ≤ daysBeforeMonth d.year 13 :=
    daysBeforeMonth_mono d.year (by omega) (by omega)
  rw [daysBeforeMonth_succ d.year hmonth, daysBeforeMonth_end] at hlater
  exact (Nat.add_le_add_left d.day_le _).trans hlater

/-- Where a year stands in the cycles of the calendar. -/
theorem exists_cycles (y : Nat) :
    ∃ a b c e, b < 4 ∧ c < 25 ∧ e < 4 ∧ y = 400 * a + 100 * b + 4 * c + e := by
  refine ⟨y / 400, y / 100 % 4, y / 4 % 25, y % 4, ?_, ?_, ?_, ?_⟩
  all_goals omega

section Cycles

variable {a b c e : Nat}

theorem isLeapYear_cycles (hb : b < 4) (hc : c < 25) (he : e < 4) :
    isLeapYear (400 * a + 100 * b + 4 * c + e + 1) = true ↔ e = 3 ∧ (c ≠ 24 ∨ b = 3) := by
  simp only [isLeapYear, Bool.and_eq_true, Bool.or_eq_true, beq_iff_eq, bne_iff_ne]
  have hfour : (400 * a + 100 * b + 4 * c + e + 1) % 4 = 0 ↔ e = 3 := by omega
  have hhundred : (400 * a + 100 * b + 4 * c + e + 1) % 100 = 0 ↔ c = 24 ∧ e = 3 := by omega
  have hall : (400 * a + 100 * b + 4 * c + e + 1) % 400 = 0 ↔ b = 3 ∧ c = 24 ∧ e = 3 := by omega
  simp only [ne_eq, hfour, hhundred, hall]
  omega

theorem daysBeforeYear_cycles (hb : b < 4) (hc : c < 25) (he : e < 4) :
    daysBeforeYear (400 * a + 100 * b + 4 * c + e + 1) =
      146097 * a + 36524 * b + 1461 * c + 365 * e := by
  have hfour : (400 * a + 100 * b + 4 * c + e) / 4 = 100 * a + 25 * b + c := by omega
  have hhundred : (400 * a + 100 * b + 4 * c + e) / 100 = 4 * a + b := by omega
  have hall : (400 * a + 100 * b + 4 * c + e) / 400 = a := by omega
  simp only [daysBeforeYear, Nat.add_sub_cancel, hfour, hhundred, hall]
  omega

/-- A cycle is never so long that it would reach into the next, its leap days included. -/
theorem ofOrdinal?_cycles (hb : b < 4) (hc : c < 25) (he : e < 4) {r : Nat}
    (hr : r < 365 ∨ r = 365 ∧ e = 3 ∧ (c ≠ 24 ∨ b = 3)) {month day : Nat}
    (hfound : monthOfDay (400 * a + 100 * b + 4 * c + e + 1) 11 1 r = (month, day)) :
    ofOrdinal? (146097 * a + 36524 * b + 1461 * c + 365 * e + r) =
      ofParts? (400 * a + 100 * b + 4 * c + e + 1) month day := by
  have hinFour : 365 * e + r < 1461 := by omega
  have hinCentury : 1461 * c + (365 * e + r) < 36524 ∨ b = 3 := by omega
  have hinEra : 36524 * b + (1461 * c + (365 * e + r)) < 146097 := by omega
  have hyears : min 3 ((365 * e + r) / 365) = e := by omega
  have hyear : 365 * e + r - e * 365 = r := by omega
  obtain ⟨f, hf⟩ : ∃ f, f = 365 * e + r := ⟨_, rfl⟩
  rw [← hf] at hinFour hinCentury hinEra hyears hyear
  have hfours : (1461 * c + f) / 1461 = c := by omega
  have hfour : (1461 * c + f) % 1461 = f := by omega
  obtain ⟨g, hg⟩ : ∃ g, g = 1461 * c + f := ⟨_, rfl⟩
  rw [← hg] at hinCentury hinEra hfours hfour
  have hcenturies : min 3 ((36524 * b + g) / 36524) = b := by omega
  have hcentury : 36524 * b + g - b * 36524 = g := by omega
  have heras : (146097 * a + (36524 * b + g)) / 146097 = a := by omega
  have hera : (146097 * a + (36524 * b + g)) % 146097 = 36524 * b + g := by omega
  have hsum : 146097 * a + 36524 * b + 1461 * c + 365 * e + r =
      146097 * a + (36524 * b + g) := by
    omega
  rw [hsum]
  simp only [ofOrdinal?, heras, hera, hcenturies, hcentury, hfours, hfour, hyears, hyear, hfound]

end Cycles

/-- The calendar finds each of its dates by the number of the day. -/
theorem ofOrdinal?_ordinal : ofOrdinal? d.ordinal = some d := by
  obtain ⟨hmonth, hmonth'⟩ := d.month_bounds
  obtain ⟨y, hy⟩ := Nat.exists_eq_add_of_le' d.year_ge
  obtain ⟨a, b, c, e, hb, hc, he, rfl⟩ := exists_cycles y
  have hfound : monthOfDay d.year 11 1 (daysBeforeMonth d.year d.month + (d.day - 1)) =
      (d.month, d.day) :=
    monthOfDay_eq d.day_ge d.day_le 11 1 _ (Nat.le_refl 1) hmonth (by omega)
      (by simp [daysBeforeMonth])
  have hlength := d.daysBeforeMonth_add_day_le
  have hr : daysBeforeMonth d.year d.month + (d.day - 1) < 365 ∨
      daysBeforeMonth d.year d.month + (d.day - 1) = 365 ∧ e = 3 ∧ (c ≠ 24 ∨ b = 3) := by
    have hday := d.day_ge
    split at hlength
    next hleap =>
      rw [hy, isLeapYear_cycles hb hc he] at hleap
      omega
    next => omega
  rw [hy] at hfound
  rw [ordinal, hy, daysBeforeYear_cycles hb hc he, Nat.add_assoc _ (daysBeforeMonth _ _),
    ofOrdinal?_cycles hb hc he (hy ▸ hr) hfound, ← hy]
  exact dif_pos ⟨d.year_ge, d.year_le, d.day_ge, d.day_le⟩

end Date

/-- The first instant of a date shows as the date with a clock at zero. -/
theorem Moment.text_midnight (d : Date) :
    (Moment.ofInstant d.midnight).text = d.text ++ "T00:00:00+00:00" := by
  have hday : d.midnight / microsPerDay = d.ordinal := Nat.mul_div_cancel _ (by decide)
  have htime : d.midnight % microsPerDay = 0 := Nat.mul_mod_left _ _
  have hclock : timeText 0 = "00:00:00" := by decide +kernel
  have hoffset : offsetText 0 = "+00:00" := by decide +kernel
  simp [text, ofInstant, wallText, hday, htime, hclock, hoffset, d.ofOrdinal?_ordinal,
    String.append_assoc]

end Targeting
