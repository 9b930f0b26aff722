import Targeting.Proofs.StoredTimes

/-!
What the store has written is read as what it was. Each reader takes a number of its width off the
front and leaves the rest to the next, so that every part of a text is read by itself.
-/

namespace Targeting

open Number

namespace Number

theorem isDigit_digitChar {n : Nat} (hn : n < 10) : (Nat.digitChar n).isDigit = true := by
  have hvalue := Nat.toNat_digitChar_of_lt_ten hn
  simp only [Char.isDigit, Bool.and_eq_true, decide_eq_true_eq, ge_iff_le, UInt32.le_iff_toNat_le]
  change 48 ≤ (Nat.digitChar n).toNat ∧ (Nat.digitChar n).toNat ≤ 57
  omega

theorem isDigit_of_mem_padded {w n : Nat} (hw : 0 < w) (hn : n < 10 ^ w) :
    ∀ c ∈ (padded w n).toList, c.isDigit = true := by
  induction w, hw using Nat.le_induction generalizing n with
  | base =>
      rw [toList_padded_one hn]
      simpa using isDigit_digitChar hn
  | succ w hw ih =>
      have hfront : n / 10 < 10 ^ w := by
        rw [pow_succ] at hn
        omega
      rw [toList_padded_succ hw]
      intro c hc
      rcases List.mem_append.mp hc with hc | hc
      · exact ih hfront c hc
      · rw [List.mem_singleton.mp hc]
        exact isDigit_digitChar (Nat.mod_lt _ (by omega))

theorem padded_ne_nil {w n : Nat} (hw : 0 < w) (hn : n < 10 ^ w) : (padded w n).toList ≠ [] := by
  have hlength := length_padded hw hn
  rintro hnil
  rw [hnil] at hlength
  exact absurd hlength hw.ne

theorem digitsValue_padded {w n : Nat} (hw : 0 < w) (hn : n < 10 ^ w) :
    digitsValue (padded w n).toList = n := by
  have hdigit : ∀ {k : Nat} (cs : List Char), k < 10 →
      digitsValue (cs ++ [Nat.digitChar k]) = 10 * digitsValue cs + k := by
    intro k cs hk
    have hvalue := Nat.toNat_digitChar_of_lt_ten hk
    have hzero : '0'.toNat = 48 := rfl
    simp only [digitsValue, List.foldl_append, List.foldl_cons, List.foldl_nil]
    omega
  induction w, hw using Nat.le_induction generalizing n with
  | base =>
      have hone := hdigit [] hn
      rw [toList_padded_one hn]
      simpa [digitsValue] using hone
  | succ w hw ih =>
      have hfront : n / 10 < 10 ^ w := by
        rw [pow_succ] at hn
        omega
      rw [toList_padded_succ hw, hdigit _ (Nat.mod_lt _ (by omega)), ih hfront]
      omega

theorem mem_marked {width : Nat} {mark c : Char} {k l n : Nat} (hwidth : 0 < width)
    (hk : k < 10 ^ width) (hl : l < 100) (hn : n < 100) (hc : c ∈ marked width mark k l n) :
    c.isDigit = true ∨ c = mark := by
  simp only [marked, List.mem_append, List.mem_cons] at hc
  rcases hc with (hc | hc | hc) | hc | hc
  · exact .inl (isDigit_of_mem_padded hwidth hk c hc)
  · exact .inr hc
  · exact .inl (isDigit_of_mem_padded Nat.two_pos hl c hc)
  · exact .inr hc
  · exact .inl (isDigit_of_mem_padded Nat.two_pos hn c hc)

end Number

namespace Text

variable {s : String}

theorem any_isSurrogate_of_ascii (h : ∀ c ∈ s.toList, c.toNat < 0x80) :
    (points s).any isSurrogate = false := by
  have hencodable := isEncodable_of_ascii h
  simpa [isEncodable] using hencodable

end Text

namespace Moment

section Bytes

variable {s : String} (h : ∀ c ∈ s.toList, c.toNat < 0x80)

include h

/-- A text of one-byte characters is read as it stands. -/
theorem bytes?_points : bytes? (Text.points s) = some s.toList := by
  have hbytes : (Text.points s).flatMap Text.utf8Bytes = s.toList.map Char.toNat :=
    Text.bytesOf_of_ascii h
  rw [bytes?, Text.any_isSurrogate_of_ascii h, hbytes, List.map_map]
  simp [Function.comp_def]

theorem withMark_points : withMark (Text.points s) = Text.points s := by
  have hnone : ∀ i : Nat, ((Text.points s)[i]?).any Text.isSurrogate = false := by
    intro i
    cases hi : (Text.points s)[i]? with
    | none => rfl
    | some n =>
        have hall := List.any_eq_false.mp (Text.any_isSurrogate_of_ascii h) n
          (List.mem_of_getElem? hi)
        simpa using hall
  have hfind : [7, 8, 10].find? (fun i => ((Text.points s)[i]?).any Text.isSurrogate) = none :=
    List.find?_eq_none.mpr fun i _ => by simp [hnone i]
  rw [withMark, hfind]

end Bytes

theorem takeNumber?_padded {w n : Nat} (hw : 0 < w) (hn : n < 10 ^ w) (rest : List Char) :
    takeNumber? w ((padded w n).toList ++ rest) = some (n, rest) := by
  have hlength := length_padded hw hn
  have hdigits : (padded w n).toList.all Char.isDigit = true :=
    List.all_eq_true.mpr (isDigit_of_mem_padded hw hn)
  simp only [takeNumber?, List.take_left' hlength, List.drop_left' hlength,
    digitsValue_padded hw hn]
  exact if_pos ⟨hlength, hdigits⟩

/-- Where a number stands there is no other mark. -/
theorem takeMark?_padded {w n : Nat} (hw : 0 < w) (hn : n < 10 ^ w) {mark : Char}
    (hmark : mark.isDigit = false) (rest : List Char) :
    takeMark? mark ((padded w n).toList ++ rest) = none := by
  obtain ⟨c, cs, hdigits⟩ := List.exists_cons_of_ne_nil (padded_ne_nil hw hn)
  have hc : c ≠ mark := by
    rintro rfl
    have hdigit := isDigit_of_mem_padded hw hn c (by simp [hdigits])
    rw [hdigit] at hmark
    cases hmark
  rw [hdigits]
  exact if_neg hc

theorem readDate?_text (d : Date) (rest : List Char) :
    readDate? 10 (d.text.toList ++ rest) = some ⟨d.year, d.month, d.day⟩ := by
  have hyear := d.year_le
  have hmonth := d.month_bounds
  have hday := d.day_le_31
  have hyears := takeNumber?_padded (w := 4) (n := d.year) (by omega) (by omega)
  have hmonths := takeNumber?_padded (w := 2) (n := d.month) (by omega) (by omega)
  have hdays := takeNumber?_padded (w := 2) (n := d.day) (by omega) (by omega)
  have hweek := takeMark?_padded (w := 2) (n := d.month) (by omega) (by omega)
    (rfl : 'W'.isDigit = false)
  have hhyphen : ∀ cs, takeMark? '-' ('-' :: cs) = some cs := fun _ => rfl
  rw [Date.toList_text_eq_marked, marked]
  simp [readDate?, hyears, hmonths, hdays, hweek, hhyphen]

theorem dateLength_text (d : Date) (rest : List Char) :
    dateLength (d.text.toList ++ rest) = 10 := by
  have hmonth := d.month_bounds
  have hdigit : (Nat.digitChar (d.month / 10)).isDigit = true := isDigit_digitChar (by omega)
  have hweek : Nat.digitChar (d.month / 10) ≠ 'W' := by
    intro heq
    rw [heq] at hdigit
    cases hdigit
  rw [Date.toList_text, dateLength, if_neg (by simp)]
  simp [hweek]

namespace TimeParts

/-- A number of two digits with a colon behind it is one of several values. -/
theorem read?_colon {left n : Nat} (hn : n < 100) {rest : List Char} (hrest : rest ≠ []) :
    read? true (left + 1) ((padded 2 n).toList ++ ':' :: rest) =
      (read? true left rest).map (cons n) := by
  obtain ⟨c, cs, rfl⟩ := List.exists_cons_of_ne_nil hrest
  rw [read?, takeNumber?_padded Nat.two_pos hn]
  rfl

theorem ofFraction?_padded {n : Nat} (hn : n < 10 ^ 6) :
    ofFraction? (padded 6 n).toList = some ⟨[], n, true⟩ := by
  have hlength := length_padded (w := 6) (by omega) hn
  have hdigits : (padded 6 n).toList.all Char.isDigit = true :=
    List.all_eq_true.mpr (isDigit_of_mem_padded (by omega) hn)
  have htake : (padded 6 n).toList.take 6 = (padded 6 n).toList :=
    List.take_of_length_le hlength.le
  have hdrop : (padded 6 n).toList.drop 6 = [] := List.drop_of_length_le hlength.le
  have hvalue := digitsValue_padded (w := 6) (by omega) hn
  simp [ofFraction?, htake, hdrop, hdigits, hvalue, hlength, tenPow]

/-- The seconds are the last value, with what may stand behind their point. -/
theorem read?_fractionText {left n : Nat} {m : Option Nat} (hn : n < 100)
    (hm : ∀ k ∈ m, k < microsPerSecond) :
    read? true (left + 1) ((padded 2 n).toList ++ fractionText m) =
      some ⟨[n], m.getD 0, true⟩ := by
  rw [read?, takeNumber?_padded Nat.two_pos hn]
  cases m with
  | none => rfl
  | some k =>
      have hk : k < 10 ^ 6 := by simpa [microsPerSecond] using hm k rfl
      have hfraction := ofFraction?_padded hk
      obtain ⟨c, cs, hdigits⟩ :=
        List.exists_cons_of_ne_nil (padded_ne_nil (Nat.succ_pos 5) hk)
      rw [hdigits] at hfraction
      simp [fractionText, hdigits, hfraction, cons]

end TimeParts

section Time

variable {s : Nat} {m : Option Nat}

theorem timeParts?_clockText (hs : s < secondsPerDay) (hm : ∀ k ∈ m, k < microsPerSecond) :
    timeParts? (clockText s ++ fractionText m) =
      some ⟨[s / 3600, s / 60 % 60, s % 60], m.getD 0, true⟩ := by
  unfold secondsPerDay at hs
  have hhours := length_padded (w := 2) (n := s / 3600) (by omega) (by omega)
  have hseconds := padded_ne_nil (w := 2) (n := s % 60) (by omega) (by omega)
  have hspaced : (clockText s ++ fractionText m)[2]? = some ':' := by
    simp [clockText, marked, hhours]
  simp only [timeParts?, hspaced, decide_true]
  simp only [clockText, marked, List.append_assoc, List.cons_append]
  rw [TimeParts.read?_colon (by omega) (by simp),
    TimeParts.read?_colon (by omega) (by simp [hseconds]),
    TimeParts.read?_fractionText (by omega) hm]
  rfl

theorem mem_clockText (hs : s < secondsPerDay) (hm : ∀ k ∈ m, k < microsPerSecond) {c : Char}
    (hc : c ∈ clockText s ++ fractionText m) : c.isDigit = true ∨ c = ':' ∨ c = '.' := by
  unfold secondsPerDay at hs
  rcases List.mem_append.mp hc with hc | hc
  · rcases mem_marked Nat.two_pos (by omega) (by omega) (by omega) hc with hdigit | hcolon
    · exact .inl hdigit
    · exact .inr (.inl hcolon)
  · cases m with
    | none => cases hc
    | some k =>
        have hk : k < 10 ^ 6 := by simpa [microsPerSecond] using hm k rfl
        rcases List.mem_cons.mp hc with hc | hc
        · exact .inr (.inr hc)
        · exact .inl (isDigit_of_mem_padded (Nat.succ_pos 5) hk c hc)

theorem readTime?_clockText (hs : s < secondsPerDay) (hm : ∀ k ∈ m, k < microsPerSecond) :
    readTime? (clockText s ++ fractionText m) =
      some (⟨[s / 3600, s / 60 % 60, s % 60], m.getD 0, true⟩, none) := by
  have hplain : ∀ c ∈ clockText s ++ fractionText m,
      (!(c == '+' || c == '-' || c == 'Z')) = true := by
    intro c hc
    rcases mem_clockText hs hm hc with hdigit | rfl | rfl
    · have hne : ∀ sign : Char, sign.isDigit = false → c ≠ sign := by
        rintro sign hsign rfl
        rw [hdigit] at hsign
        cases hsign
      simp [hne '+' rfl, hne '-' rfl, hne 'Z' rfl]
    · rfl
    · rfl
  have htake := List.takeWhile_eq_self_iff.mpr hplain
  have hdrop := List.dropWhile_eq_nil_iff.mpr hplain
  simp only [readTime?, htake, hdrop, timeParts?_clockText hs hm]
  rfl

theorem ascii_storedText {d : Date} (hd : Date.ofOrdinal? (s / secondsPerDay) = some d)
    (hm : ∀ k ∈ m, k < microsPerSecond) :
    ∀ c ∈ (Targeting.storedText s m).toList, c.toNat < 0x80 := by
  have hclock := clock_lt s
  intro c hc
  rw [toList_storedText hd, List.mem_append, List.mem_cons] at hc
  rcases hc with hc | rfl | hc
  · exact d.ascii_text c hc
  · decide
  · rcases mem_clockText hclock hm hc with hdigit | rfl | rfl
    · simp only [Char.isDigit, Bool.and_eq_true, decide_eq_true_eq] at hdigit
      exact Nat.lt_of_le_of_lt hdigit.2 (by decide)
    · decide
    · decide

/-- The text of a second, with its microseconds or without them, is read as what it shows. -/
theorem read_storedText (hs : s < calendarSeconds) (hm : ∀ k ∈ m, k < microsPerSecond) :
    read (Targeting.storedText s m) = .ok ⟨s * microsPerSecond + m.getD 0, none⟩ := by
  obtain ⟨d, hd, hday⟩ := exists_date_of_second hs
  have hascii := ascii_storedText hd hm
  have hclock := clock_lt s
  obtain ⟨clock, hclockEq⟩ : ∃ clock, clock = s % secondsPerDay := ⟨_, rfl⟩
  rw [← hclockEq] at hclock
  have hwritten : written? (Targeting.storedText s m).toList = some (⟨d.year, d.month, d.day⟩,
      ⟨[clock / 3600, clock / 60 % 60, clock % 60], m.getD 0, true⟩, none) := by
    have hlength : d.text.toList.length = 10 := by
      rw [d.toList_text]
      rfl
    have hwidth : charWidth ' ' = 1 := rfl
    rw [toList_storedText hd, written?, ← hclockEq]
    simp only [readDate?_text, dateLength_text, List.drop_left' hlength]
    simp [hwidth, readTime?_clockText hclock hm]
  have hdate : WrittenDate.date ⟨d.year, d.month, d.day⟩ = .ok d := by
    have hparts : Date.ofParts? d.year d.month d.day = some d :=
      dif_pos ⟨d.year_ge, d.year_le, d.day_ge, d.day_le⟩
    simp [WrittenDate.date, hparts]
  unfold secondsPerDay at hclock
  have hhour : ¬ 23 < clock / 3600 := by omega
  have hminute : ¬ 59 < clock / 60 % 60 := by omega
  have hsecond : ¬ 59 < clock % 60 := by omega
  rw [read, withMark_points hascii, bytes?_points hascii, Option.bind_some, hwritten]
  have hseconds : clock / 3600 * 3600 + clock / 60 % 60 * 60 + clock % 60 = clock := by omega
  have hmidnight : d.midnight + clock * microsPerSecond = s * microsPerSecond := by
    have hunits : microsPerDay = secondsPerDay * microsPerSecond := rfl
    rw [Date.midnight, hday, hunits, ← Nat.mul_assoc, ← Nat.add_mul, hclockEq, Nat.div_add_mod']
  simp [ofWritten, hdate, hhour, hminute, hsecond, TimeParts.seconds, hseconds, ← hmidnight,
    Nat.add_assoc, bind, Except.bind, pure, Except.pure]

end Time

end Moment

theorem Date.read_text (d : Date) : Date.read d.text = .ok d := by
  have hlength : d.text.toList.length = 10 := by
    rw [d.toList_text]
    rfl
  have hday : ofParts? d.year d.month d.day = some d :=
    dif_pos ⟨d.year_ge, d.year_le, d.day_ge, d.day_le⟩
  have hread := Moment.readDate?_text d []
  rw [List.append_nil] at hread
  simp [Date.read, Moment.bytes?_points d.ascii_text, hlength, hread, Moment.WrittenDate.date,
    hday, Option.elim, bind, Except.bind]

namespace StoredTime

/-- A point stands in front of microseconds and nowhere else. -/
theorem contains_point_text (t : StoredTime) : t.text.toList.contains '.' = t.micros.isSome := by
  obtain ⟨d, hd, -⟩ := exists_date_of_second t.inCalendar
  have hdate : '.' ∉ d.text.toList := by
    have hyear := d.year_le
    have hmonth := d.month_bounds
    have hday := d.day_le_31
    rw [d.toList_text_eq_marked]
    intro hpoint
    rcases mem_marked (by omega) (by omega) (by omega) (by omega) hpoint with h | h <;> cases h
  have hclock : ∀ {s}, s < secondsPerDay → '.' ∉ clockText s := by
    intro s hs hpoint
    unfold secondsPerDay at hs
    rcases mem_marked Nat.two_pos (by omega) (by omega) (by omega) hpoint with h | h <;> cases h
  have htime := hclock (clock_lt t.second)
  rw [text, toList_storedText hd]
  cases t.micros with
  | none => simp [hdate, htime, fractionText]
  | some k => simp [fractionText]

/-- A time that is kept is read as the one that it is. -/
theorem ofText?_text (t : StoredTime) : ofText? t.text = some t := by
  have hread : Moment.read t.text = _ := Moment.read_storedText t.inCalendar t.micros_lt
  have hpoint := t.contains_point_text
  obtain ⟨s, m, hs⟩ := t
  have hmicros : (m.map (·.val)).getD 0 < microsPerSecond := by
    cases m with
    | none => exact microsPerSecond_pos
    | some k => exact k.isLt
  have hsecond : (s * microsPerSecond + (m.map (·.val)).getD 0) / microsPerSecond = s := by
    rw [Nat.mul_comm, Nat.mul_add_div microsPerSecond_pos, Nat.div_eq_of_lt hmicros, Nat.add_zero]
  have hrest : ∀ k ∈ m, microsOf (s * microsPerSecond + (m.map (·.val)).getD 0) = k := by
    rintro k rfl
    apply Fin.ext
    rw [val_microsOf, Nat.mul_comm, Nat.mul_add_mod, Nat.mod_eq_of_lt hmicros]
    rfl
  simp only [ofText?, hread, hsecond, hpoint, dif_pos hs]
  cases m with
  | none => rfl
  | some k => simp only [Option.isSome_some, if_true, hrest k rfl]

theorem ofText?_storedText {m : Moment} (h : m.wall < calendarEnd) :
    ofText? m.storedText = some (m.kept h) := by
  rw [← Moment.text_kept h, ofText?_text]

theorem ofText?_filledText {m : Moment} (h : m.instant < calendarEnd) :
    ofText? m.filledText = some (m.filled h) := by
  rw [← Moment.text_filled h, ofText?_text]

end StoredTime

end Targeting
