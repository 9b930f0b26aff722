import Mathlib.Data.String.Basic
import Mathlib.Tactic.IntervalCases
import Mathlib.Order.WithBot
import Targeting.Proofs.WrittenDates
import Targeting.Store.Basic

/-!
The order of the times that the store keeps. The store compares their texts, character by character.
The parts of a text have digits of a fixed width, the greatest unit in front, so that the texts are
ordered as the clocks are; of one second, the text that ends with it comes before all that go on.
-/

namespace Targeting

open Number

namespace Text

variable {a b : List Char}

/-- The beginnings of two texts decide, where they are of one length and differ. -/
theorem append_lt_append (hlength : a.length = b.length) (h : a < b) (c d : List Char) :
    a ++ c < b ++ d := by
  induction a generalizing b with
  | nil =>
      obtain rfl : b = [] := List.length_eq_zero_iff.mp hlength.symm
      exact absurd h (List.lt_irrefl [])
  | cons x a ih =>
      cases b with
      | nil => cases hlength
      | cons y b =>
          rw [List.cons_append, List.cons_append, List.cons_lt_cons_iff]
          rcases List.cons_lt_cons_iff.mp h with hxy | ⟨rfl, hab⟩
          · exact .inl hxy
          · exact .inr ⟨rfl, ih (Nat.succ.inj hlength) hab⟩

end Text

namespace Number

theorem digitChar_lt_digitChar {m n : Nat} (hmn : m < n) (hn : n < 10) :
    Nat.digitChar m < Nat.digitChar n := by
  have hm := Nat.toNat_digitChar_of_lt_ten (hmn.trans hn)
  have hn := Nat.toNat_digitChar_of_lt_ten hn
  show (Nat.digitChar m).toNat < (Nat.digitChar n).toNat
  omega

theorem length_padded {w n : Nat} (hw : 0 < w) (hn : n < 10 ^ w) :
    (padded w n).toList.length = w := by
  induction w, hw using Nat.le_induction generalizing n with
  | base => rw [toList_padded_one hn, List.length_singleton]
  | succ w hw ih =>
      have hfront : n / 10 < 10 ^ w := by
        rw [pow_succ] at hn
        omega
      rw [toList_padded_succ hw, List.length_append, ih hfront, List.length_singleton]

/-- Numbers of one width are ordered as their digits are. -/
theorem padded_lt_padded {w m n : Nat} (hw : 0 < w) (hmn : m < n) (hn : n < 10 ^ w) :
    (padded w m).toList < (padded w n).toList := by
  induction w, hw using Nat.le_induction generalizing m n with
  | base =>
      rw [toList_padded_one (hmn.trans hn), toList_padded_one hn, List.cons_lt_cons_iff]
      exact .inl (digitChar_lt_digitChar hmn hn)
  | succ w hw ih =>
      have hfront : n / 10 < 10 ^ w := by
        rw [pow_succ] at hn
        omega
      rw [toList_padded_succ hw, toList_padded_succ hw]
      rcases Nat.lt_or_eq_of_le (Nat.div_le_div_right (c := 10) hmn.le) with hlt | heq
      · refine Text.append_lt_append ?_ (ih hlt hfront) _ _
        rw [length_padded hw (hlt.trans hfront), length_padded hw hfront]
      · rw [heq]
        apply List.append_left_lt
        rw [List.cons_lt_cons_iff]
        exact .inl (digitChar_lt_digitChar (by omega) (Nat.mod_lt _ (by omega)))

/-- Three numbers of fixed widths, with a mark in between. -/
def marked (width : Nat) (mark : Char) (a b c : Nat) : List Char :=
  (padded width a).toList ++ mark :: (padded 2 b).toList ++ mark :: (padded 2 c).toList

variable {width : Nat} {mark : Char} {a b c a' b' c' : Nat}

theorem length_marked (hwidth : 0 < width) (ha : a < 10 ^ width) (hb : b < 100) (hc : c < 100) :
    (marked width mark a b c).length = width + 6 := by
  simp [marked, length_padded hwidth ha, length_padded Nat.two_pos hb,
    length_padded Nat.two_pos hc]

/-- The first number that differs decides. -/
theorem marked_lt_marked (hwidth : 0 < width) (ha : a' < 10 ^ width) (hb : b < 100)
    (hb' : b' < 100) (hc' : c' < 100) (h : a < a' ∨ a = a' ∧ (b < b' ∨ b = b' ∧ c < c')) :
    marked width mark a b c < marked width mark a' b' c' := by
  unfold marked
  simp only [List.append_assoc, List.cons_append]
  rcases h with hlt | ⟨rfl, hlt | ⟨rfl, hlt⟩⟩
  · refine Text.append_lt_append ?_ (padded_lt_padded hwidth hlt ha) _ _
    rw [length_padded hwidth (hlt.trans ha), length_padded hwidth ha]
  · apply List.append_left_lt
    refine List.cons_lt_cons_iff.mpr (.inr ⟨rfl, ?_⟩)
    refine Text.append_lt_append ?_ (padded_lt_padded Nat.two_pos hlt hb') _ _
    rw [length_padded Nat.two_pos hb, length_padded Nat.two_pos hb']
  · apply List.append_left_lt
    refine List.cons_lt_cons_iff.mpr (.inr ⟨rfl, ?_⟩)
    apply List.append_left_lt
    exact List.cons_lt_cons_iff.mpr (.inr ⟨rfl, padded_lt_padded Nat.two_pos hlt hc'⟩)

end Number

namespace Date

variable {d e : Date}

theorem daysBeforeYear_succ {year : Nat} (h : 1 ≤ year) :
    daysBeforeYear (year + 1) = daysBeforeYear year + if isLeapYear year then 366 else 365 := by
  obtain ⟨y, rfl⟩ := Nat.exists_eq_add_of_le' h
  obtain ⟨a, b, c, e, hb, hc, he, rfl⟩ := exists_cycles y
  have hfour : (400 * a + 100 * b + 4 * c + e + 1) / 4 =
      100 * a + 25 * b + c + if e = 3 then 1 else 0 := by
    split <;> omega
  have hhundred : (400 * a + 100 * b + 4 * c + e + 1) / 100 =
      4 * a + b + if e = 3 ∧ c = 24 then 1 else 0 := by
    split <;> omega
  have hall : (400 * a + 100 * b + 4 * c + e + 1) / 400 =
      a + if e = 3 ∧ c = 24 ∧ b = 3 then 1 else 0 := by
    split <;> omega
  rw [daysBeforeYear_cycles hb hc he]
  simp only [isLeapYear_cycles hb hc he, daysBeforeYear, Nat.add_sub_cancel, hfour, hhundred, hall]
  clear hfour hhundred hall
  split_ifs <;> omega

theorem daysBeforeYear_mono {a b : Nat} (ha : 1 ≤ a) (hab : a ≤ b) :
    daysBeforeYear a ≤ daysBeforeYear b := by
  induction b, hab using Nat.le_induction with
  | base => exact Nat.le_refl _
  | succ b hb ih =>
      rw [daysBeforeYear_succ (ha.trans hb)]
      exact ih.trans (Nat.le_add_right _ _)

/-- A later year or, in one year, a later month has the later days. -/
theorem ordinal_lt_ordinal
    (h : d.year < e.year ∨ d.year = e.year ∧ (d.month < e.month ∨ d.month = e.month ∧
      d.day < e.day)) : d.ordinal < e.ordinal := by
  have hday := d.day_ge
  rcases h with hyear | ⟨hyear, hmonth | ⟨hmonth, hday'⟩⟩
  · have hlength := d.daysBeforeMonth_add_day_le
    have hnext := daysBeforeYear_succ d.year_ge
    have hmono := daysBeforeYear_mono (Nat.le_add_left 1 d.year) hyear
    unfold ordinal
    omega
  · have hlength := d.day_le
    have hnext := daysBeforeMonth_succ d.year d.month_bounds.1
    have hmono := daysBeforeMonth_mono d.year (Nat.le_add_left 1 d.month) hmonth
    unfold ordinal
    rw [← hyear]
    omega
  · unfold ordinal
    rw [← hyear, ← hmonth]
    omega

/-- The calendar ends with the year 9999. -/
theorem daysBeforeYear_end : daysBeforeYear 10000 = 3652059 := by decide

theorem midnight_lt_calendarEnd (d : Date) : d.midnight < calendarEnd := by
  have hlength := d.daysBeforeMonth_add_day_le
  have hnext := daysBeforeYear_succ d.year_ge
  have hmono : daysBeforeYear (d.year + 1) ≤ daysBeforeYear 10000 :=
    daysBeforeYear_mono (Nat.le_add_left 1 d.year) (Nat.succ_le_succ d.year_le)
  rw [daysBeforeYear_end] at hmono
  have hday := d.day_ge
  have hordinal : d.ordinal < 3652059 := by
    unfold ordinal
    omega
  exact Nat.mul_lt_mul_of_pos_right hordinal (by decide)

theorem toList_text_eq_marked (d : Date) :
    d.text.toList = marked 4 '-' d.year d.month d.day := by
  simp [text, marked]

theorem text_lt_text (h : d.ordinal < e.ordinal) : d.text.toList < e.text.toList := by
  have hdmonth := d.month_bounds
  have hemonth := e.month_bounds
  have hdday := d.day_le_31
  have heday := e.day_le_31
  have hyear := e.year_le
  have hlater : ¬ (e.year < d.year ∨ e.year = d.year ∧ (e.month < d.month ∨ e.month = d.month ∧
      e.day < d.day)) := fun hle => h.not_gt (ordinal_lt_ordinal hle)
  have hother : ¬ (d.year = e.year ∧ d.month = e.month ∧ d.day = e.day) := by
    rintro ⟨hyears, hmonths, hdays⟩
    simp [ordinal, hyears, hmonths, hdays] at h
  rw [toList_text_eq_marked, toList_text_eq_marked]
  apply marked_lt_marked
  all_goals omega

theorem daysInMonth_pos (year : Nat) {month : Nat} (h : 1 ≤ month) (h' : month ≤ 12) :
    1 ≤ daysInMonth year month := by
  have hfebruary : 1 ≤ if isLeapYear year then 29 else 28 := by
    split <;> omega
  interval_cases month
  all_goals first | exact hfebruary | exact Nat.le_add_left 1 _

theorem daysBeforeMonth_one (year : Nat) : daysBeforeMonth year 1 = 0 := rfl

/-- Behind the last day of a month comes the first of the next one. -/
theorem ordinal_add_one_of_last (hlast : d.day = daysInMonth d.year d.month) :
    d.ordinal + 1 = daysBeforeYear d.year + daysBeforeMonth d.year (d.month + 1) := by
  have hday := d.day_ge
  rw [daysBeforeMonth_succ d.year d.month_bounds.1, ← hlast]
  unfold ordinal
  omega

/-- Behind the last day of a year comes the first of the next one. -/
theorem ordinal_add_one_of_december (hlast : d.day = daysInMonth d.year d.month)
    (hmonth : d.month = 12) : d.ordinal + 1 = daysBeforeYear (d.year + 1) := by
  rw [ordinal_add_one_of_last hlast, hmonth, daysBeforeMonth_end, daysBeforeYear_succ d.year_ge]

/-- The days of the calendar have no gap. -/
theorem exists_ordinal {n : Nat} (hn : n < 3652059) : ∃ d : Date, d.ordinal = n := by
  induction n with
  | zero => exact ⟨⟨1, 1, 1, by omega, by omega, by omega, by decide⟩, rfl⟩
  | succ n ih =>
      obtain ⟨d, rfl⟩ := ih (by omega)
      obtain ⟨hmonth, hmonth'⟩ := d.month_bounds
      rcases d.day_le.lt_or_eq with hinside | hlast
      · refine ⟨⟨d.year, d.month, d.day + 1, d.year_ge, d.year_le, by omega, hinside⟩, ?_⟩
        have hday := d.day_ge
        unfold ordinal
        dsimp only
        omega
      rcases hmonth'.lt_or_eq with hinYear | hdecember
      · have hlength := daysInMonth_pos d.year (Nat.le_add_left 1 d.month) hinYear
        refine ⟨⟨d.year, d.month + 1, 1, d.year_ge, d.year_le, by omega, hlength⟩, ?_⟩
        rw [ordinal_add_one_of_last hlast]
        rfl
      · rw [ordinal_add_one_of_december hlast hdecember] at hn ⊢
        have hyear : d.year + 1 ≤ 9999 := by
          by_contra hbeyond
          have hmono := daysBeforeYear_mono (a := 10000) (by omega) (Nat.not_le.mp hbeyond)
          rw [daysBeforeYear_end] at hmono
          exact absurd hn hmono.not_gt
        refine ⟨⟨d.year + 1, 1, 1, by omega, hyear, by omega, ?_⟩, ?_⟩
        · exact daysInMonth_pos _ (by omega) (by omega)
        · simp [ordinal, daysBeforeMonth_one]

end Date

/-- Microseconds that are not written come before those that are. -/
def microsPlace (micros : Option Nat) : Nat := (micros.map (· + 1)).getD 0

/-- Where a time stands among all that the store can keep. -/
def storedPlace (second : Nat) (micros : Option Nat) : Nat :=
  second * (microsPerSecond + 1) + microsPlace micros

section Order

variable {s t : Nat} {m n : Option Nat}

@[simp]
theorem microsPlace_none : microsPlace none = 0 := rfl

@[simp]
theorem microsPlace_some (k : Nat) : microsPlace (some k) = k + 1 := rfl

theorem microsPlace_lt (hm : ∀ k ∈ m, k < microsPerSecond) :
    microsPlace m < microsPerSecond + 1 := by
  cases m with
  | none => exact Nat.succ_pos _
  | some k => exact Nat.succ_lt_succ (hm k rfl)

/-- The second decides and, where it is the same, the microseconds. -/
theorem storedPlace_lt_iff (hm : ∀ k ∈ m, k < microsPerSecond) (hn : ∀ k ∈ n, k < microsPerSecond) :
    storedPlace s m < storedPlace t n ↔ s < t ∨ s = t ∧ microsPlace m < microsPlace n := by
  have hm := microsPlace_lt hm
  have hn := microsPlace_lt hn
  unfold storedPlace
  unfold microsPerSecond at *
  omega

theorem secondsAndMicros_lt_iff {k l : Nat} (hk : k < microsPerSecond) (hl : l < microsPerSecond) :
    s * microsPerSecond + k < t * microsPerSecond + l ↔ s < t ∨ s = t ∧ k < l := by
  unfold microsPerSecond at *
  omega

/-- The characters of a second of a day. -/
def clockText (second : Nat) : List Char :=
  marked 2 ':' (second / 3600) (second / 60 % 60) (second % 60)

theorem length_clockText (hs : s < secondsPerDay) : (clockText s).length = 8 := by
  unfold secondsPerDay at hs
  apply length_marked
  all_goals omega

theorem clockText_lt_clockText (hst : s < t) (ht : t < secondsPerDay) :
    clockText s < clockText t := by
  unfold secondsPerDay at ht
  apply marked_lt_marked
  all_goals omega

/-- The characters behind a second. -/
def fractionText (micros : Option Nat) : List Char :=
  (micros.map fun n => '.' :: (padded 6 n).toList).getD []

theorem fractionText_lt_fractionText (hn : ∀ k ∈ n, k < microsPerSecond)
    (h : microsPlace m < microsPlace n) : fractionText m < fractionText n := by
  cases n with
  | none => cases h
  | some l =>
      cases m with
      | none => exact List.nil_lt_cons _ _
      | some k =>
          have hkl : k < l := by simpa using h
          have hl : l < 10 ^ 6 := by simpa [microsPerSecond] using hn l rfl
          show '.' :: (padded 6 k).toList < '.' :: (padded 6 l).toList
          rw [List.cons_lt_cons_iff]
          exact .inr ⟨rfl, padded_lt_padded (Nat.succ_pos 5) hkl hl⟩

theorem toList_storedText {d : Date} (hdate : Date.ofOrdinal? (s / secondsPerDay) = some d)
    (m : Option Nat) : (storedText s m).toList =
      d.text.toList ++ ' ' :: (clockText (s % secondsPerDay) ++ fractionText m) := by
  cases m <;> simp [storedText, clockText, fractionText, marked, hdate]

theorem exists_date_of_second (hs : s < calendarSeconds) :
    ∃ d : Date, Date.ofOrdinal? (s / secondsPerDay) = some d ∧ d.ordinal = s / secondsPerDay := by
  have hday : s / secondsPerDay < 3652059 := (Nat.div_lt_iff_lt_mul secondsPerDay_pos).mpr hs
  obtain ⟨d, hd⟩ := Date.exists_ordinal hday
  exact ⟨d, hd ▸ d.ofOrdinal?_ordinal, hd⟩

/-- The text of an earlier place comes first. -/
theorem storedText_lt_storedText (hm : ∀ k ∈ m, k < microsPerSecond)
    (hn : ∀ k ∈ n, k < microsPerSecond) (ht : t < calendarSeconds)
    (h : storedPlace s m < storedPlace t n) : storedText s m < storedText t n := by
  have hst := (storedPlace_lt_iff hm hn).mp h
  have hs : s < calendarSeconds := by omega
  obtain ⟨d, hd, hdate⟩ := exists_date_of_second hs
  obtain ⟨e, he, hdate'⟩ := exists_date_of_second ht
  rw [String.lt_iff_toList_lt, toList_storedText hd, toList_storedText he]
  rcases hst with hlt | ⟨rfl, hlt⟩
  · rcases (Nat.div_le_div_right (c := secondsPerDay) hlt.le).lt_or_eq with hday | hday
    · refine Text.append_lt_append ?_ (Date.text_lt_text (by omega)) _ _
      rw [Date.toList_text, Date.toList_text]
      rfl
    · obtain rfl : d = e := Option.some.inj (hd.symm.trans (hday ▸ he))
      have hclock : s % secondsPerDay < t % secondsPerDay := by
        have hs := Nat.div_add_mod s secondsPerDay
        have ht := Nat.div_add_mod t secondsPerDay
        rw [hday] at hs
        omega
      apply List.append_left_lt
      refine List.cons_lt_cons_iff.mpr (.inr ⟨rfl, ?_⟩)
      refine Text.append_lt_append ?_ (clockText_lt_clockText hclock (clock_lt t)) _ _
      rw [length_clockText (clock_lt s), length_clockText (clock_lt t)]
  · obtain rfl : d = e := Option.some.inj (hd.symm.trans he)
    apply List.append_left_lt
    refine List.cons_lt_cons_iff.mpr (.inr ⟨rfl, ?_⟩)
    exact List.append_left_lt (fractionText_lt_fractionText hn hlt)

end Order

namespace StoredTime

variable {a b : StoredTime}

def place (t : StoredTime) : Nat := storedPlace t.second (t.micros.map (·.val))

theorem micros_lt (t : StoredTime) : ∀ k ∈ t.micros.map (·.val), k < microsPerSecond := by
  intro k hk
  obtain ⟨n, -, rfl⟩ := Option.map_eq_some_iff.mp hk
  exact n.isLt

theorem place_lt_iff : a.place < b.place ↔ a.second < b.second ∨ a.second = b.second ∧
    microsPlace (a.micros.map (·.val)) < microsPlace (b.micros.map (·.val)) :=
  storedPlace_lt_iff a.micros_lt b.micros_lt

theorem place_injective : Function.Injective place := by
  intro a b h
  have hlt := mt (place_lt_iff (a := a) (b := b)).mpr h.not_lt
  have hgt := mt (place_lt_iff (a := b) (b := a)).mpr h.not_gt
  obtain ⟨s, m, hs⟩ := a
  obtain ⟨t, n, ht⟩ := b
  dsimp only at hlt hgt
  obtain rfl : s = t := by omega
  have hmicros : m = n := by
    cases m with
    | none =>
        cases n with
        | none => rfl
        | some l => simp at hlt
    | some k =>
        cases n with
        | none => simp at hgt
        | some l =>
            simp at hlt hgt
            rw [Fin.ext (le_antisymm hgt hlt)]
  rw [hmicros]

/-- The store compares the texts of two times, and by this their places. -/
theorem text_le_iff : a.text ≤ b.text ↔ a.place ≤ b.place := by
  have hlt : ∀ {a b : StoredTime}, a.place < b.place → a.text < b.text := fun {a b} h =>
    storedText_lt_storedText a.micros_lt b.micros_lt b.inCalendar h
  constructor
  · intro hle
    by_contra hplace
    exact absurd (hlt (Nat.not_le.mp hplace)) (String.not_lt.mpr hle)
  · intro hle
    rcases hle.lt_or_eq with hplace | hplace
    · exact (hlt hplace).le
    · rw [place_injective hplace]

theorem text_lt_iff : a.text < b.text ↔ a.place < b.place := by
  rw [← not_le, ← not_le, text_le_iff]

/-- Where the age of a row stands. A row of unknown age comes before all others. -/
def agePlace (age : Option StoredTime) : WithBot Nat := age.map place

theorem agePlace_injective : Function.Injective agePlace :=
  Option.map_injective place_injective

/-- The clock shows less than an instant, or it shows the instant and nothing below the second. -/
def IsBefore (t : StoredTime) (bound : Instant) : Prop :=
  t.wall < bound ∨ t.wall = bound ∧ t.micros = none

instance (t : StoredTime) (bound : Instant) : Decidable (t.IsBefore bound) :=
  inferInstanceAs (Decidable (_ ∨ _))

theorem IsBefore.mono {t : StoredTime} {bound later : Instant} (h : t.IsBefore bound)
    (hle : bound ≤ later) : t.IsBefore later := by
  rcases h with hlt | ⟨heq, hmicros⟩
  · exact .inl (hlt.trans_le hle)
  · exact (heq.trans_le hle).lt_or_eq.imp_right fun heq => ⟨heq, hmicros⟩

end StoredTime

/-- Rows are compared by the places of their ages. -/
theorem ageLe_iff (a b : Option StoredTime) :
    ageLe a b = true ↔ StoredTime.agePlace a ≤ StoredTime.agePlace b := by
  cases a with
  | none => exact iff_of_true rfl bot_le
  | some t =>
      cases b with
      | none => exact iff_of_false Bool.false_ne_true (WithBot.not_coe_le_bot t.place)
      | some u =>
          have hplaces : StoredTime.agePlace (some t) ≤ StoredTime.agePlace (some u) ↔
              t.place ≤ u.place := WithBot.coe_le_coe
          rw [hplaces, ageLe, decide_eq_true_iff, StoredTime.text_le_iff]

namespace Moment

/-- What the store keeps of a moment that is handed over. -/
def kept (m : Moment) (h : m.wall < calendarEnd) : StoredTime where
  second := m.wall / microsPerSecond
  micros := some (microsOf m.wall)
  inCalendar := Nat.div_lt_of_lt_mul h

/-- What the store keeps of a moment that it fills in by its own clock. -/
def filled (m : Moment) (h : m.instant < calendarEnd) : StoredTime where
  second := m.instant / microsPerSecond
  micros := none
  inCalendar := Nat.div_lt_of_lt_mul h

variable {m : Moment} {t : StoredTime} {bound : Instant}

theorem text_kept (h : m.wall < calendarEnd) : (m.kept h).text = m.storedText := rfl

theorem text_filled (h : m.instant < calendarEnd) : (m.filled h).text = m.filledText := rfl

@[simp]
theorem wall_kept (h : m.wall < calendarEnd) : (m.kept h).wall = m.wall :=
  Nat.div_add_mod' m.wall microsPerSecond

@[simp]
theorem wall_filled (h : m.instant < calendarEnd) :
    (m.filled h).wall = m.instant / microsPerSecond * microsPerSecond := by
  simp [StoredTime.wall, filled]

/-- A moment that is handed over stands where its clock stands, whatever its offset. -/
theorem isBefore_kept_iff (h : m.wall < calendarEnd) :
    (m.kept h).IsBefore bound ↔ m.wall < bound := by
  have hmicros : (m.kept h).micros ≠ none := Option.some_ne_none _
  simp [StoredTime.IsBefore, hmicros]

/-- A second that is filled in stands before all that lies in it. -/
theorem isBefore_filled_iff (h : m.instant < calendarEnd) :
    (m.filled h).IsBefore bound ↔ m.instant / microsPerSecond * microsPerSecond ≤ bound := by
  have hmicros : (m.filled h).micros = none := rfl
  simp [StoredTime.IsBefore, hmicros, le_iff_lt_or_eq]

/-- A time comes before the text of a moment also if it is the same but for a fraction of zero. -/
theorem text_lt_storedText_iff (h : m.wall < calendarEnd) :
    t.text < m.storedText ↔ t.IsBefore m.wall := by
  rw [← text_kept h, StoredTime.text_lt_iff, StoredTime.place_lt_iff]
  obtain ⟨s, n, hs⟩ := t
  cases n with
  | none =>
      have hsecond : s ≤ m.wall / microsPerSecond ↔ s * microsPerSecond ≤ m.wall :=
        Nat.le_div_iff_mul_le microsPerSecond_pos
      simpa [kept, StoredTime.IsBefore, StoredTime.wall, ← le_iff_lt_or_eq] using hsecond
  | some k =>
      have hsecond := secondsAndMicros_lt_iff (s := s) (t := m.wall / microsPerSecond) k.isLt
        (microsOf m.wall).isLt
      rw [val_microsOf, Nat.div_add_mod'] at hsecond
      simpa [kept, StoredTime.IsBefore, StoredTime.wall] using hsecond.symm

theorem storedText_lt_text_iff (h : m.wall < calendarEnd) :
    m.storedText < t.text ↔ m.wall < t.wall := by
  rw [← text_kept h, StoredTime.text_lt_iff, StoredTime.place_lt_iff]
  obtain ⟨s, n, hs⟩ := t
  cases n with
  | none =>
      have hsecond : m.wall / microsPerSecond < s ↔ m.wall < s * microsPerSecond :=
        Nat.div_lt_iff_lt_mul microsPerSecond_pos
      simpa [kept, StoredTime.wall] using hsecond
  | some k =>
      have hsecond := secondsAndMicros_lt_iff (s := m.wall / microsPerSecond) (t := s)
        (microsOf m.wall).isLt k.isLt
      rw [val_microsOf, Nat.div_add_mod'] at hsecond
      simpa [kept, StoredTime.wall] using hsecond.symm

end Moment

end Targeting
