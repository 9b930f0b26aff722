/-!
Division of natural numbers rounded to the nearest result, a tie going to the even one, and the
decimal digits of a number, with the powers of two and of ten that both are scaled by.
-/

namespace Targeting.Number

/-- The natural number nearest to `num / den`; of two equally near, the even one. -/
def roundDiv (num den : Nat) : Nat :=
  let q := num / den
  let twice := 2 * (num % den)
  if twice < den then q
  else if den < twice then q + 1
  else if q % 2 = 0 then q else q + 1

def twoPow (k : Nat) : Nat := Nat.pow 2 k

def tenPow (k : Nat) : Nat := Nat.pow 10 k

/-- `num / den` divided by `2 ^ e`, rounded to the nearest natural number. -/
def scaled (num den : Nat) (e : Int) : Nat :=
  if 0 ≤ e then roundDiv num (den * twoPow e.toNat) else roundDiv (num * twoPow (-e).toNat) den

/-- The exponent of the spacing in which `num / den` has a number of binary digits behind its first
one. -/
def spacingOf (places num den : Nat) : Int :=
  let guess : Int := (Nat.log2 num : Int) - (Nat.log2 den : Int) - places
  let below : Bool :=
    if 0 ≤ guess then decide (num < den * twoPow guess.toNat * twoPow places)
    else decide (num * twoPow (-guess).toNat < den * twoPow places)
  if below then guess - 1 else guess

/-- Decimal text of a natural number, zeros in front up to a width. -/
def padded (width n : Nat) : String :=
  let digits := Nat.toDigits 10 n
  String.ofList (List.replicate (width - digits.length) '0' ++ digits)

end Targeting.Number
