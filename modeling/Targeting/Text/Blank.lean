/-!
Blank characters and the two trims that this library uses: one for authored text, where the
information separators count as blank, and one for numerals, where they do not.
-/

namespace Targeting.Text

/-- The characters with the Unicode property White_Space. -/
def isSpace (c : Char) : Bool :=
  let n := c.toNat
  (9 ≤ n && n ≤ 13) || n == 0x20 || n == 0x85 || n == 0xA0 || n == 0x1680
    || (0x2000 ≤ n && n ≤ 0x200A) || n == 0x2028 || n == 0x2029 || n == 0x202F
    || n == 0x205F || n == 0x3000

/-- Blank in authored text: white space and the four information separators. -/
def isBlankChar (c : Char) : Bool :=
  isSpace c || (0x1C ≤ c.toNat && c.toNat ≤ 0x1F)

/-- Drops characters of a class from both ends. -/
def trimChars (p : Char → Bool) (cs : List Char) : List Char :=
  ((cs.dropWhile p).reverse.dropWhile p).reverse

/-- Authored text without the blanks around it. -/
def trim (s : String) : String :=
  String.ofList (trimChars isBlankChar s.toList)

/-- Nothing is left of the text once it is trimmed. -/
def isBlank (s : String) : Bool :=
  s.toList.all isBlankChar

/-- A slot is filled when it holds text that is not blank. -/
def isFilled : Option String → Bool
  | none => false
  | some s => !isBlank s

theorem dropWhile_eq_nil_iff (p : Char → Bool) (cs : List Char) :
    cs.dropWhile p = [] ↔ cs.all p = true := by
  induction cs with
  | nil => simp
  | cons c cs ih =>
      by_cases h : p c = true
      · simp [List.dropWhile, h, ih]
      · simp [List.dropWhile, h]

theorem trimChars_eq_nil_iff (p : Char → Bool) (cs : List Char) :
    trimChars p cs = [] ↔ cs.all p = true := by
  constructor
  · intro h
    have hrev : (cs.dropWhile p).reverse.all p = true := by
      rw [← dropWhile_eq_nil_iff]
      simpa [trimChars] using h
    have hall : (cs.dropWhile p).all p = true := by
      simpa [List.all_reverse] using hrev
    cases hd : cs.dropWhile p with
    | nil => exact (dropWhile_eq_nil_iff p cs).1 hd
    | cons c rest =>
        have hc : p c = true := by
          rw [hd] at hall
          simp at hall
          exact hall.1
        have hne : ¬ p c = true := by
          have := List.head?_dropWhile_not p cs
          rw [hd] at this
          simpa using this
        exact absurd hc hne
  · intro h
    have : cs.dropWhile p = [] := (dropWhile_eq_nil_iff p cs).2 h
    simp [trimChars, this]

/-- Blank text is exactly the text that trims to nothing. -/
theorem trim_eq_empty_iff (s : String) : trim s = "" ↔ isBlank s = true := by
  rw [isBlank, ← trimChars_eq_nil_iff, trim]
  constructor
  · intro h
    have := congrArg String.toList h
    simpa using this
  · intro h
    rw [h]

end Targeting.Text
