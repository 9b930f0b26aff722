import Targeting.Json.Value
import Targeting.Number.Stored

/-!
Values in columns for whole numbers. Such a column also takes other numbers, and text as long as it
spells no number.
-/

namespace Targeting

open Number Text

inductive LooseNumber where
  | whole (n : Int)
  | real (x : Binary64)
  | text (s : String)
  deriving DecidableEq, Repr

namespace LooseNumber

/-- Whole numbers are stored from its negative up to it, itself excluded. -/
def bound : Int := twoPow 63

/-- A binary number; one that is whole is stored as such, and NaN is not stored at all. -/
def ofReal? (x : Binary64) : Option LooseNumber :=
  match x, x.toInt? with
  | .nan, _ => none
  | _, some n => some (if -bound < n ∧ n < bound then .whole n else .real x)
  | _, none => some (.real x)

/-- White space that may stand around a spelled number. -/
def isGap (c : Char) : Bool := c == ' ' || (9 ≤ c.toNat && c.toNat ≤ 13)

/-- The number that a text spells, or else the text. -/
def ofText (s : String) : LooseNumber :=
  let (negative, rest) := takeSign (trimChars isGap s.toList)
  let n : Int := if negative then -(digitsValue rest : Int) else digitsValue rest
  if !rest.isEmpty && rest.all Char.isDigit && -bound ≤ n && n < bound then .whole n
  else (((Spelling.read? rest).map (·.storedValue negative)).bind ofReal?).getD (.text s)

def ofJson? : Json → Option LooseNumber
  | .integer n => some (.whole n)
  | .real x => some (.real x)
  | .text s => some (.text s)
  | _ => none

def toJson : LooseNumber → Json
  | .whole n => .integer n
  | .real x => .real x
  | .text s => .text s

/-- Numbers in their order, then texts in theirs. -/
def le : LooseNumber → LooseNumber → Bool
  | .text a, .text b => decide (a ≤ b)
  | .text _, _ => false
  | _, .text _ => true
  | .whole m, .whole n => decide (m ≤ n)
  | .whole m, .real y => (Amount.whole m).le (.real y)
  | .real x, .whole n => (Amount.real x).le (.whole n)
  | .real x, .real y => (Amount.real x).le (.real y)

end LooseNumber

end Targeting
