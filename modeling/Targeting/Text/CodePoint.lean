import Targeting.Text.Hex

/-!
Text as code points. Text from outside may escape half of a surrogate pair, which is a code point
but no character. Text holds it as a character behind a mark, and the mark itself, should it occur,
as two marks. So every sequence of code points has a text of its own, which can be carried along,
shown with an escape, and refused where bytes are needed.
-/

namespace Targeting.Text

def isHighSurrogate (n : Nat) : Bool := 0xD800 ≤ n && n ≤ 0xDBFF

def isLowSurrogate (n : Nat) : Bool := 0xDC00 ≤ n && n ≤ 0xDFFF

def isSurrogate (n : Nat) : Bool := isHighSurrogate n || isLowSurrogate n

def lastPoint : Nat := 0x10FFFF

/-- The character in front of a held surrogate. -/
def mark : Char := Char.ofNat lastPoint

/-- The distance between a surrogate and the character that stands for it behind the mark. -/
def surrogateShift : Nat := 0x100000

/-- How text holds a code point. -/
def written (n : Nat) : List Char :=
  if isSurrogate n then [mark, Char.ofNat (surrogateShift + n)]
  else if n = lastPoint then [mark, mark]
  else [Char.ofNat n]

/-- The code points that characters hold. -/
def pointsOf : List Char → List Nat
  | [] => []
  | [c] => [c.toNat]
  | c :: d :: rest =>
      if c = mark then (if d = mark then lastPoint else d.toNat - surrogateShift) :: pointsOf rest
      else c.toNat :: pointsOf (d :: rest)

def points (s : String) : List Nat := pointsOf s.toList

def ofPoints (ns : List Nat) : String := String.ofList (ns.flatMap written)

/-- How many code points a text has. -/
def pointCount (s : String) : Nat := (points s).length

/-- Text that has bytes. -/
def isEncodable (s : String) : Bool := !(points s).any isSurrogate

/-- A code point as an escape of as many digits as it needs. -/
def escapedPoint (n : Nat) : List Char :=
  if n < 0x100 then '\\' :: 'x' :: hexText 2 n
  else if n < 0x10000 then '\\' :: 'u' :: hexText 4 n
  else '\\' :: 'U' :: hexText 8 n

/-- What is said of text that a code has no room for: where its first code point beyond the code
stands, or its first run of them. -/
def codeComplaint? (code reason : String) (isBeyond : Nat → Bool) (s : String) : Option String :=
  let ns := points s
  let before := (ns.takeWhile (!isBeyond ·)).length
  let number (n : Nat) : String := String.ofList (Nat.toDigits 10 n)
  match (ns.drop before).takeWhile isBeyond with
  | [] => none
  | [n] =>
      some ("'" ++ code ++ "' codec can't encode character '" ++ String.ofList (escapedPoint n)
        ++ "' in position " ++ number before ++ ": " ++ reason)
  | run =>
      some ("'" ++ code ++ "' codec can't encode characters in position " ++ number before ++ "-"
        ++ number (before + run.length - 1) ++ ": " ++ reason)

/-- What is said of text without bytes. -/
def encodingComplaint? : String → Option String :=
  codeComplaint? "utf-8" "surrogates not allowed" isSurrogate

/-- What is said of text with characters beyond ASCII, where only those of ASCII will do. -/
def asciiComplaint? : String → Option String :=
  codeComplaint? "ascii" "ordinal not in range(128)" (0x80 ≤ ·)

theorem pointsOf_cons {c : Char} (h : c ≠ mark) (rest : List Char) :
    pointsOf (c :: rest) = c.toNat :: pointsOf rest := by
  cases rest <;> simp [pointsOf, h]

theorem toNat_ofNat {n : Nat} (h : n.isValidChar) : (Char.ofNat n).toNat = n := by
  unfold Char.ofNat
  rw [dif_pos h]
  rfl

theorem ofNat_ne_mark {n : Nat} (h : n.isValidChar) (hn : n ≠ lastPoint) :
    Char.ofNat n ≠ mark := by
  intro e
  have := congrArg Char.toNat e
  rw [toNat_ofNat h] at this
  exact hn this

theorem pointsOf_written_append {n : Nat} (h : n ≤ lastPoint) (rest : List Char) :
    pointsOf (written n ++ rest) = n :: pointsOf rest := by
  simp only [written]
  split
  · next hs =>
    simp only [isSurrogate, isHighSurrogate, isLowSurrogate, Bool.or_eq_true, Bool.and_eq_true,
      decide_eq_true_eq] at hs
    have hv : (surrogateShift + n).isValidChar := by
      simp only [Nat.isValidChar, surrogateShift]
      omega
    have hne : Char.ofNat (surrogateShift + n) ≠ mark :=
      ofNat_ne_mark hv (by simp only [surrogateShift, lastPoint]; omega)
    simp [pointsOf, hne, toNat_ofNat hv]
  · next hs =>
    split
    · next hl => simp [pointsOf, hl]
    · next hl =>
      have hv : n.isValidChar := by
        simp only [isSurrogate, isHighSurrogate, isLowSurrogate, Bool.or_eq_true,
          Bool.and_eq_true, decide_eq_true_eq, lastPoint] at hs h
        simp only [Nat.isValidChar]
        omega
      rw [List.cons_append, List.nil_append, pointsOf_cons (ofNat_ne_mark hv hl),
        toNat_ofNat hv]

/-- Every sequence of code points is read back from the characters that hold it. -/
theorem pointsOf_flatMap_written {ns : List Nat} (h : ∀ n ∈ ns, n ≤ lastPoint) :
    pointsOf (ns.flatMap written) = ns := by
  induction ns with
  | nil => rfl
  | cons n ns ih =>
    rw [List.flatMap_cons, pointsOf_written_append (h n (by simp)), ih]
    exact fun m hm => h m (by simp [hm])

end Targeting.Text
