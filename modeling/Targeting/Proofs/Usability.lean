import Targeting.Proofs.Rereading
import Targeting.Proofs.WholeNumbers
import Targeting.Settings

/-!
Settings that are accepted can be used. However loosely they were put, the limits are in their
bounds, the address of the database names the driver, and production has a key of its own and keeps
its statements to itself. There is one exception: NaN is not below zero and not zero either, so that
it is taken for a timeout. The main result says when this happens, and that nothing else does.
-/

namespace Targeting

open Number Scalar Text

namespace Number

theorem Binary64.ofRatio_ne_nan (negative : Bool) (num den : Nat) :
    ofRatio negative num den ≠ .nan := by
  by_cases hzero : num = 0
  · simp [ofRatio, hzero]
  · rcases ofRatio_cases negative den hzero with ⟨hout, -⟩ | ⟨m, e, hout, -⟩ <;> simp [hout]

theorem Binary64.ofDecimal_ne_nan (negative : Bool) (digits : Nat) (exponent : Int) :
    ofDecimal negative digits exponent ≠ .nan := by
  unfold ofDecimal
  dsimp only
  split_ifs
  · simp
  · simp
  · simp
  · apply ofRatio_ne_nan
  · apply ofRatio_ne_nan

/-- Digits never spell NaN. -/
theorem readMagnitude?_ne_nan (negative : Bool) (cs : List Char) :
    readMagnitude? negative cs ≠ some .nan := by
  intro h
  obtain ⟨spelling, -, hvalue⟩ := Option.map_eq_some_iff.mp h
  exact Binary64.ofDecimal_ne_nan _ _ _ hvalue

theorem readMagnitude?_of_no_digit {cs : List Char} (h : ∀ c ∈ cs, c.isDigit = false)
    (negative : Bool) : readMagnitude? negative cs = none := by
  have hnone : ∀ {ds : List Char}, (∀ c ∈ ds, c.isDigit = false) →
      ds.takeWhile Char.isDigit = [] := by
    intro ds hds
    cases ds with
    | nil => rfl
    | cons d rest => simp [hds d]
  have hrest : cs.dropWhile Char.isDigit = cs :=
    List.dropWhile_eq_self_iff.mpr fun hne => by simp [h]
  unfold readMagnitude? Spelling.read?
  dsimp only
  rw [hnone h, hrest]
  split
  next more =>
    have hmore : more.takeWhile Char.isDigit = [] :=
      hnone fun c hc => h c (List.mem_cons_of_mem _ hc)
    simp [hmore]
  next => rfl

/-- The word for NaN, in letters of either case, perhaps behind a sign. -/
def IsNanName (cs : List Char) : Prop :=
  String.ofList (cs.map Char.toLower) ∈ Binary64.nan.names

theorem isNanName_iff {cs : List Char} :
    IsNanName cs ↔ (takeSign cs).2.map Char.toLower = "nan".toList := by
  constructor
  · intro h
    have hsign := Binary64.takeSign_of_mem_names h
    rw [String.toList_ofList, takeSign_map_toLower] at hsign
    rcases hsign with ⟨-, hinfinite⟩ | ⟨hname, -⟩
    · cases hinfinite
    · exact hname
  · intro h
    match cs with
    | [] => cases h
    | c :: rest =>
        by_cases hminus : c = '-'
        · subst hminus
          have hrest : rest.map Char.toLower = "nan".toList := h
          simp only [IsNanName, List.map_cons, hrest]
          decide
        · by_cases hplus : c = '+'
          · subst hplus
            have hrest : rest.map Char.toLower = "nan".toList := h
            simp only [IsNanName, List.map_cons, hrest]
            decide
          · have hwhole : (c :: rest).map Char.toLower = "nan".toList := by
              simpa [takeSign, hminus, hplus] using h
            simp only [IsNanName, hwhole]
            decide

theorem readPlain?_eq_nan_iff (cs : List Char) : readPlain? cs = some .nan ↔ IsNanName cs := by
  rw [isNanName_iff]
  unfold readPlain?
  dsimp only
  split_ifs with hinf hnan
  · constructor
    · intro h
      cases h
    · intro h
      rw [h] at hinf
      exact absurd hinf (by decide)
  · exact iff_of_true rfl hnan
  · exact iff_of_false (readMagnitude?_ne_nan _ _) hnan

/-- A text that is read as NaN. White space may stand around the word, or else underscores in it. -/
def SpellsNan (s : String) : Prop :=
  IsNanName (trimChars isSpace s.toList) ∨
    ∃ cs, dropUnderscores? s.toList = some cs ∧ IsNanName cs

theorem mem_of_mem_takeSign {cs : List Char} {c : Char} (h : c ∈ (takeSign cs).2) : c ∈ cs := by
  unfold takeSign at h
  split at h
  · exact List.mem_cons_of_mem _ h
  · exact List.mem_cons_of_mem _ h
  · exact h

theorem IsNanName.toLower_mem {cs : List Char} (h : IsNanName cs) {c : Char} (hc : c ∈ cs) :
    c.toLower ∈ "+-an".toList := by
  have hall : Binary64.nan.names.all
      (fun name => name.toList.all ("+-an".toList.contains ·)) = true := by
    decide
  have hname := List.all_eq_true.mp (List.all_eq_true.mp hall _ h) c.toLower
    (by simpa using ⟨c, hc, rfl⟩)
  exact List.contains_iff_mem.mp hname

theorem isDigit_eq_false_of_toLower_mem {c : Char} (h : c.toLower ∈ "+-an".toList) :
    c.isDigit = false := by
  unfold Char.toLower at h
  split at h
  next hupper =>
    have hbounds : 65 ≤ c.toNat ∧ c.toNat ≤ 90 := hupper
    have hnone : ¬ (48 ≤ c.toNat ∧ c.toNat ≤ 57) := by omega
    simpa [Char.isDigit, UInt32.le_iff_toNat_le] using hnone
  next =>
    have hplain : "+-an".toList.all (!Char.isDigit ·) = true := by
      decide
    simpa using List.all_eq_true.mp hplain c h

/-- Without digits, and without the first letter of the other names, nothing but NaN can be read. -/
theorem readPlain?_of_plain {cs : List Char}
    (h : ∀ c ∈ cs, c.isDigit = false ∧ c.toLower ≠ 'i') :
    readPlain? cs = none ∨ readPlain? cs = some .nan := by
  have hletter : 'i' ∉ (takeSign cs).2.map Char.toLower := by
    intro hmem
    obtain ⟨c, hc, hlower⟩ := List.mem_map.mp hmem
    exact (h c (mem_of_mem_takeSign hc)).2 hlower
  unfold readPlain?
  dsimp only
  split_ifs with hinf hnan
  · exfalso
    apply hletter
    rcases hinf with hname | hname
    · rw [hname]
      decide
    · rw [hname]
      decide
  · exact .inr rfl
  · left
    apply readMagnitude?_of_no_digit
    intro c hc
    exact (h c (mem_of_mem_takeSign hc)).1

/-- What spells NaN once its underscores are dropped has no white space around it, and is nothing
else with them. -/
theorem readPlain?_of_underscored {cs ds : List Char} (hdrop : dropUnderscores? cs = some ds)
    (hname : IsNanName ds) :
    trimChars isSpace cs = cs ∧ (readPlain? cs = none ∨ readPlain? cs = some .nan) := by
  have hkept : ds = cs.filter (· != '_') := by
    unfold dropUnderscores? at hdrop
    split at hdrop
    · cases hdrop
    · exact (Option.some.inj hdrop).symm
  have hchars : ∀ c ∈ cs, c = '_' ∨ c ∈ ds := by
    intro c hc
    by_cases hmark : c = '_'
    · exact .inl hmark
    · right
      rw [hkept, List.mem_filter]
      exact ⟨hc, by simpa using hmark⟩
  constructor
  · apply trimChars_of_forall_not
    intro c hc
    rcases hchars c hc with rfl | hmem
    · decide
    · have hplain : String.ofList ((String.ofList ds).toList.map Char.toLower) ∈
          Binary64.nan.names := by
        rw [String.toList_ofList]
        exact hname
      exact (plain_of_mem_names hplain (by rwa [String.toList_ofList])).2
  · apply readPlain?_of_plain
    intro c hc
    rcases hchars c hc with rfl | hmem
    · decide
    · have hlower := hname.toLower_mem hmem
      refine ⟨isDigit_eq_false_of_toLower_mem hlower, fun hletter => ?_⟩
      rw [hletter] at hlower
      exact absurd hlower (by decide)

theorem readNumber?_eq_nan_iff (s : String) : readNumber? s = some .nan ↔ SpellsNan s := by
  unfold readNumber? SpellsNan
  constructor
  · intro h
    split at h
    next x hx =>
      cases h
      exact .inl ((readPlain?_eq_nan_iff _).mp hx)
    next =>
      obtain ⟨cs, hdrop, hread⟩ := Option.bind_eq_some_iff.mp h
      exact .inr ⟨cs, hdrop, (readPlain?_eq_nan_iff cs).mp hread⟩
  · rintro (hname | ⟨cs, hdrop, hname⟩)
    · rw [(readPlain?_eq_nan_iff _).mpr hname]
    · have hread := (readPlain?_eq_nan_iff cs).mpr hname
      obtain ⟨htrim, hnone | hnan⟩ := readPlain?_of_underscored hdrop hname
      · rw [htrim, hnone, hdrop]
        exact hread
      · rw [htrim, hnan]

end Number

/-- A value that stands for NaN: the number itself, or a text that spells it. -/
inductive Json.IsNan : Json → Prop where
  | itself : IsNan (.real .nan)
  | spelled {s : String} (h : SpellsNan s) : IsNan (.text s)

theorem Json.IsNan.readNumber_iff {value : Json} {x : Binary64}
    (h : readNumber value = .ok x) : x = .nan ↔ value.IsNan := by
  have hnot : x ≠ .nan → ¬ value.IsNan → (x = .nan ↔ value.IsNan) := iff_of_false
  cases value with
  | real y =>
      cases h
      constructor
      · rintro rfl
        exact .itself
      · rintro ⟨⟩
        rfl
  | integer n =>
      simp only [readNumber] at h
      split_ifs at h
      cases h
      refine hnot (Binary64.ofRatio_ne_nan _ _ _) ?_
      rintro ⟨⟩
  | bool b =>
      cases h
      refine hnot (Binary64.ofRatio_ne_nan _ _ _) ?_
      rintro ⟨⟩
  | text s =>
      simp only [readNumber] at h
      split_ifs at h
      split at h
      next y hread =>
        cases h
        constructor
        · rintro rfl
          exact .spelled ((readNumber?_eq_nan_iff s).mp hread)
        · rintro ⟨⟩
          next hspelled =>
            have hnan := (readNumber?_eq_nan_iff s).mpr hspelled
            rw [hread] at hnan
            exact Option.some.inj hnan
      next => cases h
  | null => cases h
  | list items => cases h
  | object fields => cases h

namespace Settings

variable {given environment : List (String × Json)} {source : String → Option Json}
variable {value : Json} {s : Settings}

/-- What is not refused as too small is above zero, or is no number to compare. -/
theorem readTimeout_eq_ok_iff {x : Binary64} :
    readTimeout value = .ok x ↔
      readNumber value = .ok x ∧ (x.isPositive = true ∨ x = .nan) := by
  have hsign : (x.isNegative || x.isZero) = false ↔ x.isPositive = true ∨ x = .nan := by
    cases x with
    | finite negative m e =>
        cases negative <;>
          simp [Binary64.isNegative, Binary64.isZero, Binary64.isPositive]
    | infinite negative =>
        cases negative <;>
          simp [Binary64.isNegative, Binary64.isZero, Binary64.isPositive]
    | nan => simp [Binary64.isNegative, Binary64.isZero]
  unfold readTimeout
  cases hread : readNumber value with
  | error cause => simp [bind, Except.bind]
  | ok y =>
      by_cases hlow : (y.isNegative || y.isZero) = true
      · have hrefused : y = x → ¬ (x.isPositive = true ∨ x = .nan) := by
          rintro rfl hx
          rw [hsign.mpr hx] at hlow
          cases hlow
        simpa [bind, Except.bind, hlow] using hrefused
      · have hkept : y = x → (x.isPositive = true ∨ x = .nan) := by
          rintro rfl
          exact hsign.mp (by simpa using hlow)
        simpa [bind, Except.bind, hlow, pure, Except.pure] using hkept

theorem readConcurrency_eq_ok_iff {n : Int} :
    readConcurrency value = .ok n ↔ readInteger value = .ok n ∧ 1 ≤ n ∧ n ≤ 32 := by
  unfold readConcurrency
  cases hread : readInteger value with
  | error cause => simp [bind, Except.bind]
  | ok m =>
      by_cases hbounds : 1 ≤ m ∧ m ≤ 32
      · have hkept : m = n → 1 ≤ n ∧ n ≤ 32 := by
          rintro rfl
          exact hbounds
        simpa [bind, Except.bind, hbounds, pure, Except.pure] using hkept
      · have hrefused : m = n → ¬ (1 ≤ n ∧ n ≤ 32) := by
          rintro rfl
          exact hbounds
        simpa [bind, Except.bind, hbounds] using hrefused

/-- The scheme with the driver does not begin with the plain one, so that one change is enough. -/
theorem not_prefix_withDriver (url : String) :
    ¬ plainScheme.toList <+: (withDriver url).toList := by
  unfold withDriver
  dsimp only
  split_ifs with hplain
  · rw [String.toList_append]
    intro hprefix
    have htake := List.prefix_iff_eq_take.mp hprefix
    rw [List.take_append_of_le_length (by decide)] at htake
    exact absurd htake (by decide)
  · rwa [← List.isPrefixOf_iff_prefix]

theorem not_prefix_of_readAddress {url : String} (h : readAddress value = .ok url) :
    ¬ plainScheme.toList <+: url.toList := by
  unfold readAddress at h
  cases hread : readText value with
  | error cause =>
      rw [hread] at h
      cases h
  | ok text =>
      rw [hread] at h
      cases h
      exact not_prefix_withDriver text

theorem readSetting_eq_ok_iff {α : Type} {name : String} {default a : α}
    {read : Json → Except Issue.Cause α} :
    readSetting source name default read = .ok a ↔
      (source name = none ∧ default = a) ∨
        ∃ value, source name = some value ∧ read value = .ok a := by
  unfold readSetting
  cases source name with
  | none => simp
  | some value =>
      cases hread : read value <;> simp [Reading.named, Except.mapError, hread]

/-- What holds of the default, and of all that can be read, holds of the setting. -/
theorem of_readSetting {α : Type} {P : α → Prop} {name : String} {default a : α}
    {read : Json → Except Issue.Cause α} (h : readSetting source name default read = .ok a)
    (hdefault : P default) (hread : ∀ value a, read value = .ok a → P a) : P a := by
  rcases readSetting_eq_ok_iff.mp h with ⟨-, rfl⟩ | ⟨value, -, hvalue⟩
  · exact hdefault
  · exact hread value a hvalue

/-- Each setting is read from the source, or is the default. -/
structure IsReadFrom (s : Settings) (source : String → Option Json) : Prop where
  databaseUrl :
    readSetting source "DATABASE_URL" defaults.databaseUrl readAddress = .ok s.databaseUrl
  secretKey : readSetting source "SECRET_KEY" defaults.secretKey readText = .ok s.secretKey
  algorithm : readSetting source "ALGORITHM" defaults.algorithm readText = .ok s.algorithm
  storeTimeout :
    readSetting source "STORE_TIMEOUT_SECONDS" defaults.storeTimeout readTimeout =
      .ok s.storeTimeout
  concurrency :
    readSetting source "AUDIENCE_MAX_CONCURRENCY" defaults.concurrency readConcurrency =
      .ok s.concurrency
  frontendUrl : readSetting source "FRONTEND_URL" defaults.frontendUrl readText = .ok s.frontendUrl
  environment : readSetting source "ENVIRONMENT" defaults.environment readText = .ok s.environment
  isDebug : readSetting source "DEBUG" defaults.isDebug readBool = .ok s.isDebug
  logLevel : readSetting source "LOG_LEVEL" defaults.logLevel (orNull readText) = .ok s.logLevel
  hasDocs : readSetting source "DOCS_ENABLED" defaults.hasDocs readBool = .ok s.hasDocs

theorem readAll_eq_ok_iff : readAll source = .ok s ↔ s.IsReadFrom source := by
  constructor
  · intro h
    unfold readAll at h
    obtain ⟨_, _, upToLevel, hdocs, rfl⟩ := Reading.ap_eq_ok_iff.mp h
    obtain ⟨_, _, upToDebug, hlevel, rfl⟩ := Reading.ap_eq_ok_iff.mp upToLevel
    obtain ⟨_, _, upToEnvironment, hdebug, rfl⟩ := Reading.ap_eq_ok_iff.mp upToDebug
    obtain ⟨_, _, upToFrontend, henvironment, rfl⟩ := Reading.ap_eq_ok_iff.mp upToEnvironment
    obtain ⟨_, _, upToConcurrency, hfrontend, rfl⟩ := Reading.ap_eq_ok_iff.mp upToFrontend
    obtain ⟨_, _, upToTimeout, hconcurrency, rfl⟩ := Reading.ap_eq_ok_iff.mp upToConcurrency
    obtain ⟨_, _, upToAlgorithm, htimeout, rfl⟩ := Reading.ap_eq_ok_iff.mp upToTimeout
    obtain ⟨_, _, upToKey, halgorithm, rfl⟩ := Reading.ap_eq_ok_iff.mp upToAlgorithm
    obtain ⟨_, _, upToAddress, hkey, rfl⟩ := Reading.ap_eq_ok_iff.mp upToKey
    obtain ⟨_, _, hstart, haddress, rfl⟩ := Reading.ap_eq_ok_iff.mp upToAddress
    cases hstart
    exact ⟨haddress, hkey, halgorithm, htimeout, hconcurrency, hfrontend, henvironment, hdebug,
      hlevel, hdocs⟩
  · intro h
    unfold readAll
    simp only [h.databaseUrl, h.secretKey, h.algorithm, h.storeTimeout, h.concurrency,
      h.frontendUrl, h.environment, h.isDebug, h.logLevel, h.hasDocs]
    rfl

theorem checkKey_eq_ok_iff {s' : Settings} :
    checkKey s = .ok s' ↔
      s = s' ∧ (s.isProduction = true →
        s.secretKey ∉ weakKeys ∧ keyLength ≤ pointCount s.secretKey) := by
  unfold checkKey
  by_cases hproduction : s.isProduction = true
  · by_cases hweak : s.secretKey ∈ weakKeys
    · simp [hproduction, hweak]
    · by_cases hshort : pointCount s.secretKey < keyLength
      · simp [hproduction, hweak, hshort]
      · simp [hproduction, hweak, hshort, Nat.le_of_not_lt hshort]
  · simp [hproduction]

/-- What was accepted was read from what was put, and its key passed. -/
theorem isReadFrom_of_read (h : read given environment = .ok s) :
    s.IsReadFrom (put? given environment) ∧ checkKey s = .ok s := by
  have hinner : ((readAll (put? given environment)).bind checkKey).mapError Refusal.issues =
      .ok s := by
    unfold read at h
    dsimp only at h
    split at h
    · split at h
      · exact h
      · split_ifs at h
        exact h
    · exact h
  cases hread : readAll (put? given environment) with
  | error issues =>
      rw [hread] at hinner
      cases hinner
  | ok s' =>
      rw [hread] at hinner
      cases hkey : checkKey s' with
      | error issues => simp [Except.bind, Except.mapError, hkey] at hinner
      | ok checked =>
          have hsame : s' = checked := (checkKey_eq_ok_iff.mp hkey).1
          have hresult : checked = s := by simpa [Except.bind, Except.mapError, hkey] using hinner
          subst hsame hresult
          exact ⟨readAll_eq_ok_iff.mp hread, hkey⟩

/-- Settings that the service can run with: the limits are above zero and in their bounds, the
address names the driver, and where it counts, the key is a secret and statements are not shown. -/
structure IsUsable (s : Settings) : Prop where
  timeout : s.storeTimeout.isPositive = true
  concurrency : 1 ≤ s.concurrency ∧ s.concurrency ≤ 32
  address : ¬ plainScheme.toList <+: s.databaseUrl.toList
  key : s.environment = "production" ∨ s.environment = "staging" →
    32 ≤ pointCount s.secretKey ∧ s.secretKey ∉ weakKeys
  quiet : s.environment = "production" ∨ s.environment = "staging" → s.showsStatements = false

/-- NaN is put for the timeout of queries. -/
def PutsNan (given environment : List (String × Json)) : Prop :=
  ∃ value, put? given environment "STORE_TIMEOUT_SECONDS" = some value ∧ value.IsNan

/-- A timeout that was read is above zero or NaN, and NaN only if that is what was put. -/
theorem IsReadFrom.storeTimeout_cases (h : s.IsReadFrom (put? given environment)) :
    s.storeTimeout.isPositive = true ∧ ¬ PutsNan given environment ∨
      s.storeTimeout = .nan ∧ PutsNan given environment := by
  rcases readSetting_eq_ok_iff.mp h.storeTimeout with ⟨hnone, hdefault⟩ | ⟨value, hput, hvalue⟩
  · left
    constructor
    · rw [← hdefault]
      decide
    · rintro ⟨value, hput, -⟩
      rw [hnone] at hput
      cases hput
  · have hiff : PutsNan given environment ↔ value.IsNan := by
      constructor
      · rintro ⟨other, hother, hnan⟩
        rw [hput] at hother
        cases hother
        exact hnan
      · intro hnan
        exact ⟨value, hput, hnan⟩
    obtain ⟨hnumber, hsign⟩ := readTimeout_eq_ok_iff.mp hvalue
    rw [hiff, ← Json.IsNan.readNumber_iff hnumber]
    rcases hsign with hpositive | hnan
    · left
      refine ⟨hpositive, fun hnan => ?_⟩
      rw [hnan] at hpositive
      cases hpositive
    · exact .inr ⟨hnan, hnan⟩

/-- Whatever was accepted would be usable with a timeout above zero. -/
theorem isUsable_withTimeout (h : read given environment = .ok s) {x : Binary64}
    (hx : x.isPositive = true) : { s with storeTimeout := x }.IsUsable := by
  obtain ⟨hread, hkey⟩ := isReadFrom_of_read h
  have hname : s.environment = "production" ∨ s.environment = "staging" →
      s.isProduction = true := by
    intro henvironment
    simpa [isProduction, isProductionName] using henvironment
  constructor
  case timeout => exact hx
  case concurrency =>
    apply of_readSetting (P := fun n => 1 ≤ n ∧ n ≤ 32) hread.concurrency
    · decide
    · intro value n hvalue
      exact (readConcurrency_eq_ok_iff.mp hvalue).2
  case address =>
    apply of_readSetting (P := fun url => ¬ plainScheme.toList <+: url.toList) hread.databaseUrl
    · decide
    · intro value url hvalue
      exact not_prefix_of_readAddress hvalue
  case key =>
    intro henvironment
    obtain ⟨hweak, hlength⟩ := (checkKey_eq_ok_iff.mp hkey).2 (hname henvironment)
    exact ⟨hlength, hweak⟩
  case quiet =>
    intro henvironment
    have hproduction : isProduction { s with storeTimeout := x } = true := hname henvironment
    simp [showsStatements, hproduction]

/-- Settings that were accepted are usable unless NaN was put for the timeout. Then NaN is what the
timeout is, and nothing else is wrong with them. -/
theorem isUsable_iff_of_read (given environment : List (String × Json)) {s : Settings}
    (h : read given environment = .ok s) :
    (s.IsUsable ↔ ¬ PutsNan given environment) ∧
      (PutsNan given environment → s.storeTimeout = .nan ∧
        ∀ x : Binary64, x.isPositive = true → { s with storeTimeout := x }.IsUsable) := by
  have hothers := fun x hx => isUsable_withTimeout (x := x) h hx
  rcases (isReadFrom_of_read h).1.storeTimeout_cases with ⟨hpositive, hput⟩ | ⟨hnan, hput⟩
  · refine ⟨iff_of_true ?_ hput, fun hputs => absurd hputs hput⟩
    exact hothers s.storeTimeout hpositive
  · refine ⟨iff_of_false ?_ (not_not_intro hput), fun _ => ⟨hnan, hothers⟩⟩
    intro husable
    have hpositive := husable.timeout
    rw [hnan] at hpositive
    cases hpositive

/-- Settings of a staging system, loosely put: a timeout with an exponent and a limit with an
underscore, and a plain address. -/
def stagingGiven : List (String × Json) :=
  [("ENVIRONMENT", .text "staging"), ("STORE_TIMEOUT_SECONDS", .text " 5e-1 "),
    ("SECRET_KEY", .text "0123456789abcdef0123456789abcdef")]

def stagingEnvironment : List (String × Json) :=
  [("AUDIENCE_MAX_CONCURRENCY", .text "3_2"), ("DATABASE_URL", .text "postgresql://db/push"),
    ("STORE_TIMEOUT_SECONDS", .text "nan")]

theorem isUsable_iff_of_read_staging :
    ∃ s, read stagingGiven stagingEnvironment = .ok s ∧ s.IsUsable := by
  have hread : read stagingGiven stagingEnvironment = .ok { defaults with
      databaseUrl := "postgresql+asyncpg://db/push"
      secretKey := "0123456789abcdef0123456789abcdef"
      storeTimeout := .ofRatio false 1 2
      concurrency := 32
      environment := "staging" } := by
    decide +kernel
  refine ⟨_, hread, (isUsable_iff_of_read _ _ hread).1.mpr ?_⟩
  rintro ⟨value, hput, hnan⟩
  cases hput
  cases hnan with
  | spelled h =>
      have hnone : readNumber? " 5e-1 " ≠ some .nan := by decide
      exact hnone ((readNumber?_eq_nan_iff _).mpr h)

/-- NaN is not refused, although a timeout must be positive. -/
theorem nan_timeout_is_accepted :
    ∃ s, read [("STORE_TIMEOUT_SECONDS", .text "nan")] [] = .ok s ∧ ¬ s.IsUsable := by
  refine ⟨{ defaults with storeTimeout := .nan }, by decide, ?_⟩
  intro h
  exact absurd h.timeout (by decide)

end Settings

end Targeting
