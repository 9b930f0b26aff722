import Targeting.Number.Binary64

/-!
Decimal text of binary floating-point numbers. Digits are taken from the exact value: six
significant digits for display, a fixed number of places for durations, and the fewest digits
that read back for everything else.
-/

namespace Targeting.Number

def digitCount (n : Nat) : Nat :=
  (Nat.toDigits 10 n).length

def digitText (n : Nat) : String :=
  String.ofList (Nat.toDigits 10 n)

/-- The exponent of the first decimal digit of `num / den`, for a positive `num`. -/
def leadingExponent (num den : Nat) : Int :=
  let guess : Int := (digitCount num : Int) - digitCount den
  let reached : Bool :=
    if 0 ≤ guess then decide (den * tenPow guess.toNat ≤ num)
    else decide (den ≤ num * tenPow (-guess).toNat)
  if reached then guess else guess - 1

/-- `num / den` on the grid of multiples of `10 ^ e`, as an exact ratio. -/
def onGrid (num den : Nat) (e : Int) : Nat × Nat :=
  if 0 ≤ e then (num, den * tenPow e.toNat) else (num * tenPow (-e).toNat, den)

/-- The first `places` significant digits of `num / den`, rounded, with the exponent of the first
of them. -/
def significantDigits (places num den : Nat) : Nat × Int :=
  let k := leadingExponent num den
  let (a, b) := onGrid num den (k - (places - 1 : Nat))
  let m := roundDiv a b
  if m = tenPow places then (tenPow (places - 1), k + 1) else (m, k)

def dropTrailingZeros (cs : List Char) : List Char :=
  (cs.reverse.dropWhile (· == '0')).reverse

/-- The exponent part of a number: a sign and at least two digits. -/
def exponentText (k : Int) : String :=
  (if k < 0 then "e-" else "e+") ++ padded 2 k.natAbs

/-- One digit, then the rest of them behind a point, then the exponent. -/
def scientific (digits : List Char) (k : Int) : String :=
  match digits with
  | [] => exponentText k
  | [d] => String.ofList [d] ++ exponentText k
  | d :: rest => String.ofList (d :: '.' :: rest) ++ exponentText k

/-- The digits with the point behind the digit of exponent zero. -/
def positional (digits : List Char) (k : Int) : String :=
  if k < 0 then String.ofList ('0' :: '.' :: List.replicate ((-k).toNat - 1) '0' ++ digits)
  else
    let whole := k.toNat + 1
    let front := digits.take whole ++ List.replicate (whole - digits.length) '0'
    let back := digits.drop whole
    if back.isEmpty then String.ofList front else String.ofList (front ++ '.' :: back)

/-- How a number is laid out: the first exponent that is no longer written positionally, and what
is added to a positional number without a fraction. -/
structure NumeralStyle where
  positionalBelow : Int
  wholeSuffix : String

def NumeralStyle.layOut (style : NumeralStyle) (digits : List Char) (k : Int) : String :=
  if k < -4 || style.positionalBelow ≤ k then scientific digits k
  else
    let text := positional digits k
    if (digits.length : Int) ≤ k + 1 then text ++ style.wholeSuffix else text

/-- Displayed numbers have six significant digits and are positional below a million. -/
def displayStyle : NumeralStyle := ⟨6, ""⟩

/-- Numbers written in full are positional below `10 ^ 16` and keep a zero behind the point. -/
def exactStyle : NumeralStyle := ⟨16, ".0"⟩

namespace Binary64

/-- A number in the display style, zeros at the end dropped. -/
def display : Binary64 → String
  | .nan => "nan"
  | .infinite negative => if negative then "-inf" else "inf"
  | .finite negative m e =>
      let sign := if negative then "-" else ""
      if m = 0 then sign ++ "0"
      else
        let (num, den) := ratio m e
        let (digits, k) := significantDigits 6 num den
        sign ++ displayStyle.layOut (dropTrailingZeros (Nat.toDigits 10 digits)) k

/-- A number with a fixed count of digits behind the point. -/
def fixed (places : Nat) : Binary64 → String
  | .nan => "nan"
  | .infinite negative => if negative then "-inf" else "inf"
  | .finite negative m e =>
      let (num, den) := ratio m e
      let units := roundDiv (num * tenPow places) den
      let whole := digitText (units / tenPow places)
      let fraction := padded places (units % tenPow places)
      (if negative then "-" else "") ++ (if places = 0 then whole else whole ++ "." ++ fraction)

/-- The grid point among the two around `num / den` that reads back as `x`, the nearer first. -/
def readsBack? (x : Binary64) (negative : Bool) (num den : Nat) (e : Int) : Option Nat :=
  let (a, b) := onGrid num den e
  let low := a / b
  let candidates := if 2 * (a % b) ≤ b then [low, low + 1] else [low + 1, low]
  candidates.find? fun d =>
    let (p, q) := if 0 ≤ e then (d * tenPow e.toNat, 1) else (d, tenPow (-e).toNat)
    decide (ofRatio negative p q = x)

/-- The fewest digits that read back as the number, from a given count up. -/
def fewestDigits (x : Binary64) (negative : Bool) (num den : Nat) (k : Int) :
    Nat → Nat → Nat × Int
  | _, 0 => significantDigits 17 num den
  | places, fuel + 1 =>
      match x.readsBack? negative num den (k - (places - 1 : Nat)) with
      | some d => if d = tenPow places then (1, k + 1) else (d, k)
      | none => fewestDigits x negative num den k (places + 1) fuel

/-- A number in the exact style. -/
def exactText : Binary64 → String
  | .nan => "nan"
  | .infinite negative => if negative then "-inf" else "inf"
  | .finite negative m e =>
      let sign := if negative then "-" else ""
      if m = 0 then sign ++ "0.0"
      else
        let (num, den) := ratio m e
        let x := Binary64.finite negative m e
        let (digits, k) := x.fewestDigits negative num den (leadingExponent num den) 1 17
        sign ++ exactStyle.layOut (dropTrailingZeros (Nat.toDigits 10 digits)) k

end Binary64

end Targeting.Number
