import Targeting.Number.Decimal
import Targeting.Number.Extended
import Targeting.Number.Numeral

/-!
Numbers on their way into the store and out of it. A numeral becomes a number, and a number becomes
fifteen digits, by products of powers of ten with significands of 64 bits. Both may be off the
nearest result in the last place.
-/

namespace Targeting.Number

namespace Spelling

/-- A significand is given no further digits from here on. -/
def fullSignificand : Nat := 922337203685477579

/-- Digits taken behind a significand until it is full, and the count of those left over. -/
def takeDigits (n : Nat) : List Char → Nat × Nat
  | [] => (n, 0)
  | c :: rest =>
      if n < fullSignificand then takeDigits (10 * n + digitsValue [c]) rest
      else (n, rest.length + 1)

/-- The size of an exponent. Past ten thousand, further digits leave it there. -/
def exponentSize (digits : List Char) : Nat :=
  digits.foldl (fun e c => if e < 10000 then 10 * e + digitsValue [c] else 10000) 0

/-- The significand of a numeral and its exponent. Digits left over in front of the point count as
zeros, and those behind it not at all. -/
def parts (s : Spelling) : Nat × Int :=
  let (m, skipped) := takeDigits 0 s.whole
  let (m, unused) := takeDigits m s.fraction
  let size : Int := exponentSize s.exponent
  let written : Int := if s.isLowered then -size else size
  (m, written + skipped - ((s.fraction.length - unused : Nat) : Int))

/-- A significand that takes zeros from a positive exponent while it has room. -/
def raise : Nat → Nat → Nat × Nat
  | 0, m => (m, 0)
  | k + 1, m => if m < fullSignificand + 1 then raise k (10 * m) else (m, k + 1)

/-- A significand that gives zeros to a negative exponent while it has some. -/
def lower : Nat → Nat → Nat × Nat
  | 0, m => (m, 0)
  | k + 1, m => if m % 10 = 0 then lower k (m / 10) else (m, k + 1)

/-- The greatest power of ten that a number is scaled by at once. -/
def greatestPower : Nat := 308

/-- Exponents from this one up lead out of the format. -/
def beyondFormat : Nat := 342

/-- The binary number for `m * 10 ^ k`. -/
def scaledUp (negative : Bool) (m k : Nat) : Binary64 :=
  if k = 0 then .ofRatio negative m 1
  else if k < greatestPower then ((Extended.ofNat m).mul (.tenTo k)).toReal negative
  else if k < beyondFormat then
    (((Extended.ofNat m).mul (.tenTo (k - greatestPower))).toReal negative).mul
      (.ofNat (tenPow greatestPower))
  else .infinite negative

/-- The binary number for `m / 10 ^ k`. -/
def scaledDown (negative : Bool) (m k : Nat) : Binary64 :=
  if k = 0 then .ofRatio negative m 1
  else if k < greatestPower then ((Extended.ofNat m).div (.tenTo k)).toReal negative
  else if k < beyondFormat then
    (((Extended.ofNat m).div (.tenTo (k - greatestPower))).toReal negative).div
      (.ofNat (tenPow greatestPower))
  else .finite negative 0 Binary64.leastExponent

/-- The number that the store reads. -/
def storedValue (negative : Bool) (s : Spelling) : Binary64 :=
  let (m, e) := s.parts
  if m = 0 then .finite negative 0 Binary64.leastExponent
  else if 0 ≤ e then
    let (m, k) := raise e.toNat m
    scaledUp negative m k
  else
    let (m, k) := lower (-e).toNat m
    scaledDown negative m k

end Spelling

namespace Extended

/-- A scale multiplied by a step of some places while it stays at most as large as a magnitude. -/
def climb (x step : Extended) (places : Int) : Nat → Extended × Int → Extended × Int
  | 0, (scale, k) => (scale, k)
  | fuel + 1, (scale, k) =>
      if (scale.mul step).le x then climb x step places fuel (scale.mul step, k + places)
      else (scale, k)

/-- A magnitude multiplied by a step of some places while it is below a bound. -/
def sink (bound step : Extended) (places : Int) : Nat → Extended × Int → Extended × Int
  | 0, (x, k) => (x, k)
  | fuel + 1, (x, k) =>
      if bound.le x then (x, k) else sink bound step places fuel (x.mul step, k - places)

/-- A positive magnitude brought between one and ten, with its exponent of ten. The counts of steps
are enough for every binary number of 64 bits. -/
def leading (x : Extended) : Extended × Int :=
  let up := climb x (ofConstant (tenPow 100) 1) 100 4 (one, 0)
  let up := climb x (ofConstant (tenPow 10) 1) 10 10 up
  let (scale, k) := climb x ten 1 10 up
  let down := sink (ofConstant 1 (tenPow 8)) (ofConstant (tenPow 8) 1) 8 41 (x.div scale, k)
  sink one ten 1 10 down

/-- Half of the fifteenth digit, as the product of two constants. -/
def halfDigit : Extended :=
  (ofConstant 5 (tenPow 5)).mul (ofConstant 1 (tenPow 10))

/-- The magnitude to take digits from, and the exponent of the first of them. -/
def rounded (x : Extended) : Extended × Int :=
  let (lead, k) := x.leading
  let lead := lead.add halfDigit
  if ten.le lead then (lead.mul (ofConstant 1 10), k + 1) else (lead, k)

/-- The digits of a magnitude below ten, the first of them in front of the point. -/
def digits : Nat → Extended → List Char
  | 0, _ => []
  | n + 1, x => x.floor.digitChar :: digits n (x.fraction.mul ten)

end Extended

/-- Stored numbers are positional below `10 ^ 15` and keep a zero behind the point. -/
def storedStyle : NumeralStyle := ⟨15, ".0"⟩

/-- A number as a column of text keeps it: fifteen significant digits, a half rounded up, and always
a digit behind the point. Zero has no sign, and NaN is not kept. -/
def Binary64.storedText? : Binary64 → Option String
  | .nan => none
  | .infinite negative => some (if negative then "-Inf" else "Inf")
  | .finite negative m e =>
      if m = 0 then some "0.0"
      else
        let (lead, k) := (Extended.mk m e).rounded
        let cs := dropTrailingZeros (lead.digits 15)
        let isPositional := -4 ≤ k && k < storedStyle.positionalBelow
        let cs := if cs.length = 1 && !isPositional then cs ++ ['0'] else cs
        some ((if negative then "-" else "") ++ storedStyle.layOut cs k)

end Targeting.Number
