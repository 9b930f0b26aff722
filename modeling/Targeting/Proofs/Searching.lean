import Mathlib.Data.List.Infix
import Mathlib.Data.List.TakeWhile
import Targeting.Proofs.Equality

/-!
Searching for a text. The store searches with patterns, and the text that is searched for goes into
one with its wildcards escaped. What the escapes write is read back as the text itself, character by
character, so that the backtracking of the matcher finds just the places where the text stands. The
store sees a text only up to its first NUL and takes two noncharacters for the replacement
character; apart from that the search is literal.
-/

namespace Targeting

namespace Text

/-- A character as patterns see it. -/
def seen (c : Char) : Char := withoutNoncharacters c.toLower

/-- Patterns see the text as it is, but for the case of ASCII letters. -/
def Plain (text : String) : Prop :=
  ∀ c ∈ text.toList, c ≠ '\x00' ∧ c ≠ '\uFFFE' ∧ c ≠ '\uFFFF'

/-- Folding changes letters into letters. -/
theorem toLower_eq_iff {c w : Char}
    (hw : (w.toNat < 65 ∨ 90 < w.toNat) ∧ (w.toNat < 97 ∨ 122 < w.toNat)) :
    c.toLower = w ↔ c = w := by
  unfold Char.toLower
  split
  next hupper =>
    have hbounds : 65 ≤ c.toNat ∧ c.toNat ≤ 90 := hupper
    constructor
    · intro heq
      have hlower : w.toNat = c.toNat + 32 := by
        rw [← heq, ← Char.toNat_val, UInt32.toNat_add]
        change (c.toNat + 32) % 4294967296 = _
        omega
      omega
    · rintro rfl
      omega
  next => rfl

/-- Neither wildcards nor NUL are seen where there are none. -/
theorem seen_eq_iff {c w : Char} (hw : w ∈ ['/', '%', '_', '\x00']) : seen c = w ↔ c = w := by
  have hkept : ((w.toNat < 65 ∨ 90 < w.toNat) ∧ (w.toNat < 97 ∨ 122 < w.toNat)) ∧
      w ≠ '\uFFFD' ∧ w ≠ '\uFFFE' ∧ w ≠ '\uFFFF' := by
    simp only [List.mem_cons, List.not_mem_nil, or_false] at hw
    rcases hw with rfl | rfl | rfl | rfl <;> decide
  obtain ⟨hletter, hreplacement, hfirst, hsecond⟩ := hkept
  unfold seen withoutNoncharacters
  split
  next hnon =>
    constructor
    · intro heq
      exact absurd heq.symm hreplacement
    · rintro rfl
      rw [toLower_eq_iff (by decide), toLower_eq_iff (by decide)] at hnon
      exact absurd hnon (not_or.mpr ⟨hfirst, hsecond⟩)
  next => exact toLower_eq_iff hletter

theorem upToNul_eq_self {cs : List Char} (h : '\x00' ∉ cs) : upToNul cs = cs := by
  apply List.takeWhile_eq_self_iff.mpr
  intro c hc
  apply bne_iff_ne.mpr
  rintro rfl
  exact h hc

theorem patternView_eq_map {cs : List Char} (h : '\x00' ∉ cs) : patternView cs = cs.map seen := by
  apply upToNul_eq_self
  intro hnul
  obtain ⟨c, hc, hseen⟩ := List.mem_map.mp hnul
  cases (seen_eq_iff (by decide)).mp hseen
  exact h hc

theorem patternView_of_plain {text : String} (h : Plain text) :
    patternView text.toList = fold text := by
  rw [patternView_eq_map fun hnul => (h _ hnul).1 rfl]
  apply List.map_congr_left
  intro c hc
  obtain ⟨-, hfirst, hsecond⟩ := h c hc
  apply if_neg
  rw [toLower_eq_iff (by decide), toLower_eq_iff (by decide)]
  exact not_or.mpr ⟨hfirst, hsecond⟩

/-- The escapes of a text are seen as those of what is seen of it. -/
theorem map_seen_escapeWildcards (value : List Char) :
    (escapeWildcards value).map seen = escapeWildcards (value.map seen) := by
  induction value with
  | nil => rfl
  | cons c rest ih =>
      have hwild : (seen c = escapeChar ∨ seen c = '%' ∨ seen c = '_') ↔
          (c = escapeChar ∨ c = '%' ∨ c = '_') := by
        rw [escapeChar, seen_eq_iff (by decide), seen_eq_iff (by decide), seen_eq_iff (by decide)]
      have hescape : seen escapeChar = escapeChar := (seen_eq_iff (by decide)).mpr rfl
      rw [List.map_cons, escapeWildcards, escapeWildcards]
      by_cases hc : c = escapeChar ∨ c = '%' ∨ c = '_'
      · rw [if_pos hc, if_pos (hwild.mpr hc), List.map_cons, List.map_cons, hescape, ih]
      · rw [if_neg hc, if_neg (mt hwild.mp hc), List.map_cons, ih]

theorem nul_not_mem_escapeWildcards {value : List Char} (h : '\x00' ∉ value) :
    '\x00' ∉ escapeWildcards value := by
  induction value with
  | nil => exact h
  | cons c rest ih =>
      obtain ⟨hc, hrest⟩ := not_or.mp (mt List.mem_cons.mpr h)
      have hkept : '\x00' ∉ c :: escapeWildcards rest :=
        mt List.mem_cons.mp (not_or.mpr ⟨hc, ih hrest⟩)
      rw [escapeWildcards]
      split
      · exact mt List.mem_cons.mp (not_or.mpr ⟨by decide, hkept⟩)
      · exact hkept

theorem readPattern_cons {c : Char} (hc : ¬ (c = escapeChar ∨ c = '%' ∨ c = '_'))
    (rest : List Char) :
    readPattern (c :: rest) = (readPattern rest).map (.exactly c :: ·) := by
  obtain ⟨hescape, hrun, hone⟩ : c ≠ '/' ∧ c ≠ '%' ∧ c ≠ '_' := by
    simpa [escapeChar, not_or] using hc
  rw [readPattern] <;> simp_all

/-- What the escapes write is read as the text itself, whatever follows. -/
theorem readPattern_escapeWildcards (value rest : List Char) :
    readPattern (escapeWildcards value ++ rest) =
      (readPattern rest).map (value.map .exactly ++ ·) := by
  induction value with
  | nil => simp [escapeWildcards]
  | cons c value ih =>
      rw [escapeWildcards]
      split
      · rw [List.cons_append, List.cons_append, escapeChar, readPattern, ih, Option.map_map]
        rfl
      next hc =>
        rw [List.cons_append, readPattern_cons hc, ih, Option.map_map]
        rfl

theorem mem_suffixes_iff {tail text : List Char} : tail ∈ suffixes text ↔ tail <:+ text := by
  induction text with
  | nil => simp [suffixes]
  | cons c rest ih => rw [suffixes, List.mem_cons, ih, List.suffix_cons_iff]

theorem matchesPattern_run_iff {pattern : List Wildcard} {text : List Char} :
    matchesPattern (.run :: pattern) text = true ↔
      ∃ tail, tail <:+ text ∧ matchesPattern pattern tail = true := by
  rw [matchesPattern, List.any_eq_true]
  simp only [mem_suffixes_iff]

/-- Literal elements match a text that begins with them. -/
theorem matchesPattern_exactly_iff {value : List Char} {pattern : List Wildcard}
    {text : List Char} :
    matchesPattern (value.map .exactly ++ pattern) text = true ↔
      ∃ tail, text = value ++ tail ∧ matchesPattern pattern tail = true := by
  induction value generalizing text with
  | nil => simp
  | cons c value ih =>
      cases text with
      | nil => simp [matchesPattern]
      | cons x rest =>
          rw [List.map_cons, List.cons_append, matchesPattern, Bool.and_eq_true, beq_iff_eq, ih]
          constructor
          · rintro ⟨rfl, tail, rfl, hrest⟩
            exact ⟨tail, rfl, hrest⟩
          · rintro ⟨tail, htext, hrest⟩
            obtain ⟨rfl, rfl⟩ := List.cons.inj htext
            exact ⟨rfl, tail, rfl, hrest⟩

/-- The pattern of a text sees what the text is seen as, between the wildcards put around it. -/
theorem like_escaped_iff {value : List Char} (h : '\x00' ∉ value) {rest : List Char}
    (hrest : '\x00' ∉ rest) (text : String) :
    like ('%' :: (escapeWildcards value ++ rest)) text = true ↔
      ∃ elements, readPattern (rest.map seen) = some elements ∧
        ∃ before tail, patternView text.toList = before ++ (patternView value ++ tail) ∧
          matchesPattern elements tail = true := by
  have hnul : '\x00' ∉ '%' :: (escapeWildcards value ++ rest) := by
    rw [List.mem_cons, List.mem_append]
    simp [nul_not_mem_escapeWildcards h, hrest]
  have hread : readPattern (patternView ('%' :: (escapeWildcards value ++ rest))) =
      (readPattern (rest.map seen)).map (.run :: (value.map seen).map .exactly ++ ·) := by
    rw [patternView_eq_map hnul, List.map_cons, List.map_append, map_seen_escapeWildcards,
      (seen_eq_iff (by decide)).mpr (rfl : '%' = '%'), readPattern, readPattern_escapeWildcards,
      Option.map_map]
    rfl
  rw [like, hread, patternView_eq_map h]
  -- The wildcard in front may stop anywhere; from there on the text has to stand as it is.
  cases readPattern (rest.map seen) with
  | none => simp
  | some elements =>
      simp only [Option.map_some, Option.some.injEq, List.cons_append, exists_eq_left',
        matchesPattern_run_iff, matchesPattern_exactly_iff]
      constructor
      · rintro ⟨_, ⟨before, hbefore⟩, tail, rfl, hmatches⟩
        exact ⟨before, tail, hbefore.symm, hmatches⟩
      · rintro ⟨before, tail, htext, hmatches⟩
        exact ⟨_, ⟨before, htext.symm⟩, tail, rfl, hmatches⟩

theorem like_containsPattern_iff {value text : String} (h : '\x00' ∉ value.toList) :
    like (containsPattern value) text = true ↔
      patternView value.toList <:+: patternView text.toList := by
  have hlike := like_escaped_iff h (show '\x00' ∉ ['%'] by decide) text
  have hrest : readPattern (['%'].map seen) = some [.run] := by decide
  rw [hrest] at hlike
  rw [containsPattern, List.cons_append, hlike]
  constructor
  · rintro ⟨_, -, before, tail, htext, -⟩
    exact ⟨before, tail, by rw [htext, List.append_assoc]⟩
  · rintro ⟨before, tail, htext⟩
    refine ⟨_, rfl, before, tail, by rw [← htext, List.append_assoc], ?_⟩
    exact matchesPattern_run_iff.mpr ⟨[], List.nil_suffix, rfl⟩

theorem like_endsPattern_iff {value text : String} (h : '\x00' ∉ value.toList) :
    like (endsPattern value) text = true ↔
      patternView value.toList <:+ patternView text.toList := by
  have hlike := like_escaped_iff h (show '\x00' ∉ ([] : List Char) by decide) text
  rw [List.append_nil] at hlike
  rw [endsPattern, hlike]
  constructor
  · rintro ⟨_, hread, before, tail, htext, hmatches⟩
    cases hread
    cases List.isEmpty_iff.mp hmatches
    exact ⟨before, by rw [htext, List.append_nil]⟩
  · rintro ⟨before, htext⟩
    exact ⟨_, rfl, before, [], by rw [← htext, List.append_nil], rfl⟩

/-- What a search sees of a text. -/
def searchView (text : String) : List Char := patternView text.toList

end Text

open Text

/-- The columns that a category searches for a text. -/
def Category.searched : Category → List TextColumn
  | .location => [.country, .city, .region]
  | .browser => [.browser]
  | .operatingSystem => [.os]
  | .language => [.language]
  | .emailDomain => [.email]
  | .referrer => [.referrer]
  | .subscribed | .lastSeen | .deviceType => []

namespace Subscriber

/-- The column is known, and what is viewed of the value stands somewhere in it. -/
def HoldsIn (u : Subscriber) (view : String → List Char) (column : TextColumn) (value : String) :
    Prop :=
  ∃ text, column.of u = some text ∧ view value <:+: view text

/-- The column is known and ends with the value. -/
def EndsIn (u : Subscriber) (view : String → List Char) (column : TextColumn) (value : String) :
    Prop :=
  ∃ text, column.of u = some text ∧ view value <:+ view text

/-- The column is known and ends otherwise. -/
def EndsOtherwiseIn (u : Subscriber) (view : String → List Char) (column : TextColumn)
    (value : String) : Prop :=
  ∃ text, column.of u = some text ∧ ¬ view value <:+ view text

/-- Searches see nothing in the column that is not there. -/
def PlainIn (u : Subscriber) (column : TextColumn) : Prop :=
  ∀ text, column.of u = some text → Plain text

theorem known_congr {u : Subscriber} {column : TextColumn} {p q : String → Prop}
    (h : ∀ text, column.of u = some text → (p text ↔ q text)) :
    (∃ text, column.of u = some text ∧ p text) ↔ ∃ text, column.of u = some text ∧ q text := by
  apply exists_congr
  intro text
  apply and_congr_right
  exact h text

end Subscriber

namespace Formula

variable (u : Subscriber) (column : TextColumn) {value : String}

theorem eval_holds_eq_yes (h : '\x00' ∉ value.toList) :
    (test (.text column .holds value)).eval u = .yes ↔ u.HoldsIn searchView column value := by
  simp only [eval, Test.eval, Truth.ofColumn_eq_yes, TextRelation.relates,
    like_containsPattern_iff h]
  rfl

theorem eval_endsWith_eq_yes (h : '\x00' ∉ value.toList) :
    (test (.text column .endsWith value)).eval u = .yes ↔ u.EndsIn searchView column value := by
  simp only [eval, Test.eval, Truth.ofColumn_eq_yes, TextRelation.relates, like_endsPattern_iff h]
  rfl

theorem eval_endsOtherwise_eq_yes (h : '\x00' ∉ value.toList) :
    (test (.text column .endsOtherwise value)).eval u = .yes ↔
      u.EndsOtherwiseIn searchView column value := by
  simp only [eval, Test.eval, Truth.ofColumn_eq_yes, TextRelation.relates, Bool.not_eq_true',
    ← Bool.not_eq_true, like_endsPattern_iff h]
  rfl

end Formula

namespace Condition

theorem mem_addressEnd {domain : String} {x : Char} (h : x ∈ (addressEnd domain).toList) :
    x = '@' ∨ x ∈ domain.toList := by
  unfold addressEnd at h
  split at h
  · exact .inr h
  · rw [String.toList_append, List.mem_append] at h
    exact h.imp_left List.mem_singleton.mp

/-- The formula of a condition says of a subscriber what a search says, under a view of texts. -/
structure Searches (c : Condition) (f : Formula) (u : Subscriber) (view : String → List Char) :
    Prop where
  contains : ∀ category, c.Listed category .contains → ∃ value, c.value = some value ∧
    (f.eval u = .yes ↔ ∃ column ∈ category.searched, u.HoldsIn view column value)
  domain : c.Listed .emailDomain .equal → ∃ value, c.value = some value ∧
    (f.eval u = .yes ↔ u.EndsIn view .email (addressEnd value))
  otherDomain : c.Listed .emailDomain .notEqual → ∃ value, c.value = some value ∧
    (f.eval u = .yes ↔ u.EndsOtherwiseIn view .email (addressEnd value))

variable {c : Condition} {now : Moment} {category : Category} {f : Formula}

theorem contains_of_categoryFormula (hlisted : .contains ∈ category.operators)
    (h : c.categoryFormula now category .contains = .ok f) :
    ∃ value, c.value = some value ∧ ∀ u, f.eval u = .yes ↔
      ∃ column ∈ category.searched, (Formula.test (.text column .holds value)).eval u = .yes := by
  cases category with
  | subscribed | lastSeen | deviceType => exact absurd hlisted (by decide)
  | browser | operatingSystem | language | emailDomain | referrer =>
      obtain ⟨value, hgiven, -, rfl⟩ := filledValue_map_eq_ok h
      exact ⟨value, hgiven, fun u => by simp [Category.searched]⟩
  | location =>
      obtain ⟨value, hgiven, -, rfl⟩ := filledValue_map_eq_ok h
      refine ⟨value, hgiven, fun u => ?_⟩
      rw [Formula.eval_any_eq_yes]
      simp [Category.searched]

theorem searches_searchView (h : c.formula now = .ok f)
    (hvalue : ∀ value, c.value = some value → '\x00' ∉ value.toList) (u : Subscriber) :
    c.Searches f u searchView where
  contains := by
    intro category found
    obtain ⟨value, hgiven, heval⟩ :=
      contains_of_categoryFormula found.listed (categoryFormula_of_formula h found)
    refine ⟨value, hgiven, ?_⟩
    simp only [heval u, Formula.eval_holds_eq_yes u _ (hvalue value hgiven)]
  domain := by
    intro found
    obtain ⟨value, hgiven, -, rfl⟩ := filledValue_map_eq_ok (categoryFormula_of_formula h found)
    refine ⟨value, hgiven, Formula.eval_endsWith_eq_yes u _ fun hnul => ?_⟩
    exact hvalue value hgiven ((mem_addressEnd hnul).resolve_left (by decide))
  otherDomain := by
    intro found
    obtain ⟨value, hgiven, -, rfl⟩ := filledValue_map_eq_ok (categoryFormula_of_formula h found)
    refine ⟨value, hgiven, Formula.eval_endsOtherwise_eq_yes u _ fun hnul => ?_⟩
    exact hvalue value hgiven ((mem_addressEnd hnul).resolve_left (by decide))

theorem plain_addressEnd {domain : String} (h : Plain domain) : Plain (addressEnd domain) := by
  intro x hx
  rcases mem_addressEnd hx with rfl | hdomain
  · decide
  · exact h x hdomain

/-- Two views that agree on the value and on the columns that are searched say the same. -/
theorem Searches.congr {view other : String → List Char} {u : Subscriber}
    (h : c.Searches f u view)
    (hvalue : ∀ value, c.value = some value →
      view value = other value ∧ view (addressEnd value) = other (addressEnd value))
    (hcolumns : ∀ category, c.InCategory category → ∀ column ∈ category.searched,
      ∀ text, column.of u = some text → view text = other text) :
    c.Searches f u other where
  contains := by
    intro category found
    obtain ⟨value, hgiven, heval⟩ := h.contains category found
    refine ⟨value, hgiven, heval.trans ?_⟩
    apply exists_congr
    intro column
    apply and_congr_right
    intro hcolumn
    apply Subscriber.known_congr
    intro text htext
    rw [(hvalue value hgiven).1, hcolumns category found.toInCategory column hcolumn text htext]
  domain := by
    intro found
    obtain ⟨value, hgiven, heval⟩ := h.domain found
    refine ⟨value, hgiven, heval.trans ?_⟩
    apply Subscriber.known_congr
    intro text htext
    rw [(hvalue value hgiven).2, hcolumns _ found.toInCategory .email (.head _) text htext]
  otherDomain := by
    intro found
    obtain ⟨value, hgiven, heval⟩ := h.otherDomain found
    refine ⟨value, hgiven, heval.trans ?_⟩
    apply Subscriber.known_congr
    intro text htext
    rw [(hvalue value hgiven).2, hcolumns _ found.toInCategory .email (.head _) text htext]

/-- A search is literal: its wildcards stand for themselves. It goes through what the store sees of
a text, and on plain texts that is all there is. -/
theorem formula_searches_literally (c : Condition) (now : Moment) (f : Formula)
    (h : c.formula now = .ok f)
    (hvalue : ∀ value, c.value = some value → '\x00' ∉ value.toList) (u : Subscriber) :
    c.Searches f u searchView ∧
      ((∀ value, c.value = some value → Plain value) →
        (∀ category, c.InCategory category → ∀ column ∈ category.searched, u.PlainIn column) →
          c.Searches f u fold) := by
  have hseen := searches_searchView h hvalue u
  refine ⟨hseen, ?_⟩
  intro hplain hcolumns
  apply hseen.congr
  · intro value hgiven
    exact ⟨patternView_of_plain (hplain value hgiven),
      patternView_of_plain (plain_addressEnd (hplain value hgiven))⟩
  · intro category found column hcolumn text htext
    exact patternView_of_plain (hcolumns category found column hcolumn text htext)

/-- Asks for a browser that holds a text. -/
def finding (value : String) : Condition :=
  { Sample.condition "browser" value .all with operator := "contains" }

theorem formula_finding {value : String} (h : isBlank value = false) :
    (finding value).formula Sample.now = .ok (.test (.text .browser .holds value)) := by
  have hcategory : (finding value).InCategory .browser :=
    ⟨rfl, show categoryKey "browser" = "browser" by decide +kernel⟩
  have hoperator : operatorKey "contains" = Operator.contains.name := by decide +kernel
  have found : (finding value).Listed .browser .contains := ⟨hcategory, by decide, hoperator⟩
  have hfilled : (finding value).filledValue .contains = .ok value :=
    filledValue_eq_ok_iff.mpr ⟨rfl, h⟩
  rw [formula_eq_ok_iff, judge_of_listed _ _ found, categoryFormula, textFormula, hfilled]
  rfl

theorem formula_searches_literally_percent :
    ∃ f, (finding "50%_/").formula Sample.now = .ok f ∧
      (∀ value, (finding "50%_/").value = some value → '\x00' ∉ value.toList) ∧
      f.eval (Sample.subscriber "u1" "to 50%_/ off") = .yes ∧
      f.eval (Sample.subscriber "u2" "to 50 per cent off") = .no ∧
      (finding "50%_/").Searches f (Sample.subscriber "u1" "to 50%_/ off") searchView := by
  have hformula := formula_finding (show isBlank "50%_/" = false by decide +kernel)
  have hvalue : ∀ value, (finding "50%_/").value = some value → '\x00' ∉ value.toList := by
    rintro value ⟨⟩
    decide
  exact ⟨_, hformula, hvalue, by decide +kernel, by decide +kernel,
    (formula_searches_literally (finding "50%_/") Sample.now _ hformula hvalue _).1⟩

/-- What stands behind a NUL is not found, and a noncharacter is taken for the replacement
character. -/
theorem contains_misses_behind_nul :
    (∃ f, (finding "b").formula Sample.now = .ok f ∧
      f.eval (Sample.subscriber "u1" "A\x00b") ≠ .yes ∧ fold "b" <:+: fold "A\x00b") ∧
    (∃ f, (finding "\uFFFD").formula Sample.now = .ok f ∧
      f.eval (Sample.subscriber "u1" "\uFFFF") = .yes ∧
        ¬ fold "\uFFFD" <:+: fold "\uFFFF") := by
  constructor
  · have hformula := formula_finding (show isBlank "b" = false by decide +kernel)
    exact ⟨_, hformula, by decide +kernel, ['a', '\x00'], [], by decide⟩
  · have hformula := formula_finding (show isBlank "\uFFFD" = false by decide +kernel)
    exact ⟨_, hformula, by decide +kernel, by decide +kernel⟩

end Condition

end Targeting
