import Targeting.Number.Binary64
import Targeting.Text.Blank
import Targeting.Text.Digit

/-!
Numerals in text. The named values `inf`, `infinity` and `nan` are read in any case. An authored
numeral may have white space around it, or else underscores between its digits. A numeral that is
converted later, by the store or out of a token, may have both, and digits of any script.
-/

namespace Targeting.Number

open Targeting.Text

/-- The value of a run of decimal digits. -/
def digitsValue (cs : List Char) : Nat :=
  cs.foldl (fun n c => 10 * n + (c.toNat - '0'.toNat)) 0

/-- The number `± digits * 10 ^ exponent`. Magnitudes far outside the format are decided without
building the power. -/
def Binary64.ofDecimal (negative : Bool) (digits : Nat) (exponent : Int) : Binary64 :=
  if digits = 0 then .finite negative 0 leastExponent
  else
    let top : Int := (Nat.toDigits 10 digits).length + exponent
    if 310 < top then .infinite negative
    else if top < -330 then .finite negative 0 leastExponent
    else if 0 ≤ exponent then ofRatio negative (digits * tenPow exponent.toNat) 1
    else ofRatio negative digits (tenPow (-exponent).toNat)

/-- A sign, if there is one, and what follows it. -/
def takeSign : List Char → Bool × List Char
  | '-' :: rest => (true, rest)
  | '+' :: rest => (false, rest)
  | rest => (false, rest)

/-- A numeral without its sign, as it is spelled: digits in front of a point and behind it, and the
sign and the digits of an exponent. -/
structure Spelling where
  whole : List Char
  fraction : List Char
  isLowered : Bool
  exponent : List Char
  deriving DecidableEq, Repr

namespace Spelling

/-- The exponent at the end of a numeral; an empty end is no exponent. -/
def readExponent? : List Char → Option (Bool × List Char)
  | [] => some (false, [])
  | c :: rest =>
      if c = 'e' ∨ c = 'E' then
        let (negative, digits) := takeSign rest
        if digits.isEmpty || !digits.all Char.isDigit then none else some (negative, digits)
      else none

/-- Digits with at most one point among them and an optional exponent. -/
def read? (cs : List Char) : Option Spelling :=
  let whole := cs.takeWhile Char.isDigit
  let rest := cs.dropWhile Char.isDigit
  let (fraction, rest) :=
    match rest with
    | '.' :: more => (more.takeWhile Char.isDigit, more.dropWhile Char.isDigit)
    | _ => ([], rest)
  if whole.isEmpty && fraction.isEmpty then none
  else (readExponent? rest).map fun (isLowered, exponent) => ⟨whole, fraction, isLowered, exponent⟩

/-- The number nearest to what is spelled. -/
def value (negative : Bool) (s : Spelling) : Binary64 :=
  let e : Int := digitsValue s.exponent
  .ofDecimal negative (digitsValue (s.whole ++ s.fraction))
    ((if s.isLowered then -e else e) - s.fraction.length)

end Spelling

/-- The number that a numeral without its sign spells. -/
def readMagnitude? (negative : Bool) (cs : List Char) : Option Binary64 :=
  (Spelling.read? cs).map (·.value negative)

/-- A numeral with nothing around it. -/
def readPlain? (cs : List Char) : Option Binary64 :=
  let (negative, rest) := takeSign cs
  let name := rest.map Char.toLower
  if name = "inf".toList ∨ name = "infinity".toList then some (.infinite negative)
  else if name = "nan".toList then some .nan
  else readMagnitude? negative rest

/-- Two underscores in a row. -/
def hasDoubledUnderscore : List Char → Bool
  | '_' :: '_' :: _ => true
  | _ :: rest => hasDoubledUnderscore rest
  | [] => false

/-- The text without its underscores, unless one is first, last or doubled. -/
def dropUnderscores? (cs : List Char) : Option (List Char) :=
  if cs.head? = some '_' ∨ cs.getLast? = some '_' ∨ hasDoubledUnderscore cs then none
  else some (cs.filter (· != '_'))

/-- Reads a number: trimmed as it is, or untrimmed without its underscores. -/
def readNumber? (s : String) : Option Binary64 :=
  match readPlain? (trimChars isSpace s.toList) with
  | some x => some x
  | none => (dropUnderscores? s.toList).bind readPlain?

/-- What is left of an integer without the zeros in front of it and the underscores among those.
One zero stays in front of a point, and one stays of nothing but zeros. A minus sign may stand
behind the zeros. -/
def behindZeros? : List Char → Option (List Char)
  | [] => none
  | first :: rest =>
      let isFiller (c : Char) : Bool := c == '0' || c == '_'
      let startsNumber (c : Char) : Bool := c == '-' || c.isDigit
      if first = '0' then
        let last := ((rest.takeWhile isFiller).getLast?).getD first
        match rest.dropWhile isFiller with
        | [] => some [last]
        | '.' :: tail => some (last :: '.' :: tail)
        | c :: tail => if startsNumber c then some (c :: tail) else none
      else if startsNumber first then some (first :: rest)
      else none

/-- The text in front of a point that nothing but zeros follows. -/
def dropZeroFraction (cs : List Char) : List Char :=
  match cs.dropWhile (· != '.') with
  | _ :: tail => if !tail.isEmpty && tail.all (· == '0') then cs.takeWhile (· != '.') else cs
  | [] => cs

/-- The sign and the digits of an integer. White space around it is dropped, then a plus sign, zeros
in front and a fraction of zeros, then the underscores between digits. What is left may have a
minus sign, but no zero in front of other digits. -/
def integerDigits? (s : String) : Option (Bool × List Char) := do
  let cs := trimChars isSpace s.toList
  let unsigned ← if cs.head? = some '+' then behindPlus? (cs.drop 1) else some cs
  let plain ← dropUnderscores? (dropZeroFraction (← behindZeros? unsigned))
  let (negative, digits) := takeSign plain
  guard (!digits.isEmpty && digits.all Char.isDigit && (digits.head? ≠ some '0' || digits = ['0']))
  pure (negative, digits)
where
  /-- Behind a plus sign stands no minus sign. -/
  behindPlus? (cs : List Char) : Option (List Char) :=
    if cs.head? = some '-' then none else some cs

/-- The text without its underscores, each of which has to stand between two digits. -/
def dropGroupMarks? (previous : Char) : List Char → Option (List Char)
  | [] => if previous = '_' then none else some []
  | '_' :: rest => if previous.isDigit then dropGroupMarks? '_' rest else none
  | c :: rest =>
      if previous = '_' && !c.isDigit then none else (dropGroupMarks? c rest).map (c :: ·)

/-- The characters of a converted numeral: trimmed, with digits of ASCII and no underscores. -/
def convertedNumeral? (s : String) : Option (List Char) :=
  dropGroupMarks? ' ' ((trimChars isSpace s.toList).map fun c =>
    ((digitOf? c).map Nat.digitChar).getD c)

/-- Converts a text to a number. -/
def convertNumber? (s : String) : Option Binary64 :=
  (convertedNumeral? s).bind readPlain?

/-- Integers with more digits than this are neither read nor converted. -/
def integerDigitLimit : Nat := 4300

/-- Converts a text to an integer. -/
def convertInteger? (s : String) : Option Int := do
  let (negative, digits) := takeSign (← convertedNumeral? s)
  guard (!digits.isEmpty && digits.all Char.isDigit && digits.length ≤ integerDigitLimit)
  pure (if negative then -(digitsValue digits : Int) else digitsValue digits)

end Targeting.Number
