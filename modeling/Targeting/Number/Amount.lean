import Targeting.Number.Binary64

/-!
Amounts that are whole or binary numbers. Whole amounts stay exact among themselves; where one of
two is binary, so is the result, and a whole amount beyond the format is refused there.
-/

namespace Targeting.Number

inductive Amount where
  | whole (n : Int)
  | real (x : Binary64)
  deriving DecidableEq, Repr

namespace Amount

/-- The nearest binary number; `none` for a whole amount beyond the format. -/
def toReal? : Amount → Option Binary64
  | .whole n => if (Binary64.ofInt n).isFinite then some (.ofInt n) else none
  | .real x => some x

/-- An operation on two amounts, by what it does to whole and to binary ones. -/
def combine? (onWhole : Int → Int → Int) (onReal : Binary64 → Binary64 → Binary64) :
    Amount → Amount → Option Amount
  | .whole m, .whole n => some (.whole (onWhole m n))
  | a, b => do
      let x ← a.toReal?
      let y ← b.toReal?
      pure (.real (onReal x y))

def sub? (a b : Amount) : Option Amount := combine? (· - ·) .sub a b

def mul? (a b : Amount) : Option Amount := combine? (· * ·) .mul a b

/-- At least a whole number; no such thing is said of NaN. -/
def atLeast (a : Amount) (n : Nat) : Bool :=
  match a with
  | .whole m => decide ((n : Int) ≤ m)
  | .real .nan => false
  | .real x => !(x.sub (.ofNat n)).isNegative

/-- The exact ratio of a finite amount. -/
def ratio? : Amount → Option (Int × Nat)
  | .whole n => some (n, 1)
  | .real (.finite negative m e) =>
      let (num, den) := Binary64.ratio m e
      some (if negative then -(num : Int) else num, den)
  | .real _ => none

/-- Exact order, with the infinities at both ends. -/
def le : Amount → Amount → Bool
  | .real (.infinite true), _ => true
  | _, .real (.infinite false) => true
  | a, b =>
      match a.ratio?, b.ratio? with
      | some (p, q), some (r, s) => decide (p * s ≤ r * q)
      | _, _ => false

end Amount

end Targeting.Number
