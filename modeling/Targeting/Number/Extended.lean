import Targeting.Number.Binary64

/-!
Magnitudes with significands of 64 bits. An operation rounds its exact result once, to the nearest
representable magnitude, a tie going to the even significand. The exponents are not bounded, so that
nothing overflows.
-/

namespace Targeting.Number

/-- The value `significand * 2 ^ exponent`. -/
structure Extended where
  significand : Nat
  exponent : Int
  deriving DecidableEq, Repr

namespace Extended

/-- The magnitude nearest to `num / den`. -/
def ofRatio (num den : Nat) : Extended :=
  if num = 0 then ⟨0, 0⟩
  else
    let e := spacingOf 63 num den
    ⟨scaled num den e, e⟩

def ofNat (n : Nat) : Extended := ofRatio n 1

/-- The numerator and denominator of a magnitude. -/
def ratio (x : Extended) : Nat × Nat := Binary64.ratio x.significand x.exponent

/-- The binary number of 64 bits nearest to `num / den`. Its significand is shorter, so that it is a
magnitude as it is. -/
def ofConstant (num den : Nat) : Extended :=
  match Binary64.ofRatio false num den with
  | .finite _ m e => ⟨m, e⟩
  | _ => ⟨0, 0⟩

def mul (x y : Extended) : Extended :=
  let (num, den) := Binary64.ratio (x.significand * y.significand) (x.exponent + y.exponent)
  ofRatio num den

def div (x y : Extended) : Extended :=
  let (num, den) := Binary64.ratio x.significand (x.exponent - y.exponent)
  ofRatio num (den * y.significand)

def add (x y : Extended) : Extended :=
  let (a, b) := x.ratio
  let (c, d) := y.ratio
  ofRatio (a * d + c * b) (b * d)

/-- At most as large. -/
def le (x y : Extended) : Bool :=
  let (a, b) := x.ratio
  let (c, d) := y.ratio
  decide (a * d ≤ c * b)

/-- The natural number nearest below. -/
def floor (x : Extended) : Nat := x.ratio.1 / x.ratio.2

/-- What is left behind the point. -/
def fraction (x : Extended) : Extended := ofRatio (x.ratio.1 % x.ratio.2) x.ratio.2

/-- The binary number of 64 bits nearest to `± x`. -/
def toReal (negative : Bool) (x : Extended) : Binary64 :=
  Binary64.ofRatio negative x.ratio.1 x.ratio.2

def one : Extended := ofNat 1

def ten : Extended := ofNat 10

/-- A power of ten, as the product of those repeated squares of ten that the exponent has bits for,
from the lowest bit up. The large powers are off the exact ones. -/
def tenTo (n : Nat) : Extended :=
  let step : Extended × Extended → Nat → Extended × Extended := fun (square, product) bit =>
    (square.mul square, if n.testBit bit then product.mul square else product)
  ((List.range (Nat.log2 n + 1)).foldl step (ten, one)).2

end Extended

end Targeting.Number
