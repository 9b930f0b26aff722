import Targeting.Number.Rounding

/-!
Binary floating-point numbers of 64 bits as exact values. A finite number is a sign, a
significand and a power of two; arithmetic is done on the exact value, which is then rounded once
to the nearest representable number, a tie going to the even significand.
-/

namespace Targeting.Number

/-- A number of the format. `finite negative m e` has the value `± m * 2 ^ e`. -/
inductive Binary64 where
  | finite (negative : Bool) (significand : Nat) (exponent : Int)
  | infinite (negative : Bool)
  | nan
  deriving DecidableEq, Repr

namespace Binary64

/-- Significands stay below this bound. -/
def significandBound : Nat := twoPow 53

/-- The exponent of the smallest spacing. -/
def leastExponent : Int := -1074

/-- The exponent of the largest finite numbers. -/
def greatestExponent : Int := 971

/-- The spacing of the representable numbers around `num / den`, as an exponent. -/
def spacing (num den : Nat) : Int := max leastExponent (spacingOf 52 num den)

/-- The number nearest to `± num / den`. -/
def ofRatio (negative : Bool) (num den : Nat) : Binary64 :=
  if num = 0 then .finite negative 0 leastExponent
  else
    let e := spacing num den
    let m := scaled num den e
    let (m, e) := if m = significandBound then (m / 2, e + 1) else (m, e)
    if greatestExponent < e then .infinite negative else .finite negative m e

def ofNat (n : Nat) : Binary64 := ofRatio false n 1

def ofInt (n : Int) : Binary64 := ofRatio (n < 0) n.natAbs 1

def zero : Binary64 := .finite false 0 leastExponent

def isFinite : Binary64 → Bool
  | .finite _ _ _ => true
  | _ => false

/-- Strictly below zero; a zero of either sign is not. -/
def isNegative : Binary64 → Bool
  | .finite negative m _ => negative && m != 0
  | .infinite negative => negative
  | .nan => false

/-- Strictly above zero. -/
def isPositive : Binary64 → Bool
  | .finite negative m _ => !negative && m != 0
  | .infinite negative => !negative
  | .nan => false

def isZero : Binary64 → Bool
  | .finite _ m _ => m == 0
  | _ => false

/-- The numerator and denominator of the magnitude of a finite number. -/
def ratio (m : Nat) (e : Int) : Nat × Nat :=
  if 0 ≤ e then (m * twoPow e.toNat, 1) else (m, twoPow (-e).toNat)

/-- The product, rounded once. -/
def mul : Binary64 → Binary64 → Binary64
  | .nan, _ => .nan
  | _, .nan => .nan
  | .infinite a, .infinite b => .infinite (a != b)
  | .infinite a, .finite b m _ => if m = 0 then .nan else .infinite (a != b)
  | .finite a m _, .infinite b => if m = 0 then .nan else .infinite (a != b)
  | .finite a m e, .finite b k f =>
      let (num, den) := ratio (m * k) (e + f)
      ofRatio (a != b) num den

/-- The quotient, rounded once. -/
def div : Binary64 → Binary64 → Binary64
  | .nan, _ => .nan
  | _, .nan => .nan
  | .infinite _, .infinite _ => .nan
  | .infinite a, .finite b _ _ => .infinite (a != b)
  | .finite a _ _, .infinite b => .finite (a != b) 0 leastExponent
  | .finite a m e, .finite b k f =>
      if k = 0 then if m = 0 then .nan else .infinite (a != b)
      else
        let (num, den) := ratio m (e - f)
        ofRatio (a != b) num (den * k)

/-- The difference of two numbers, rounded once. -/
def sub : Binary64 → Binary64 → Binary64
  | .nan, _ => .nan
  | _, .nan => .nan
  | .infinite a, .infinite b => if a = b then .nan else .infinite a
  | .infinite a, .finite _ _ _ => .infinite a
  | .finite _ _ _, .infinite b => .infinite !b
  | .finite a m e, .finite b k f =>
      let low := min e f
      let signed (negative : Bool) (m : Nat) (e : Int) : Int :=
        let n : Int := m * twoPow (e - low).toNat
        if negative then -n else n
      let d := signed a m e - signed b k f
      if d = 0 then .finite (a && !b) 0 leastExponent
      else
        let (num, den) := ratio d.natAbs low
        ofRatio (d < 0) num den

/-- The integer nearest to a finite number, a half going to the even one. -/
def round? : Binary64 → Option Int
  | .finite negative m e =>
      let (num, den) := ratio m e
      let q : Int := roundDiv num den
      some (if negative then -q else q)
  | _ => none

/-- The value of a finite number that has no fractional part. -/
def toInt? : Binary64 → Option Int
  | .finite negative m e =>
      let (num, den) := ratio m e
      if num % den = 0 then
        some (if negative then -((num / den : Nat) : Int) else ((num / den : Nat) : Int))
      else none
  | _ => none

/-- The 64 bits of a number: sign, biased exponent, fraction. -/
def toBits : Binary64 → Nat
  | .nan => 0x7FF8000000000000
  | .infinite negative => (if negative then twoPow 63 else 0) + 0x7FF0000000000000
  | .finite negative m e =>
      let sign := if negative then twoPow 63 else 0
      if m < twoPow 52 then sign + m
      else sign + (e - leastExponent + 1).toNat * twoPow 52 + (m - twoPow 52)

end Binary64

end Targeting.Number
