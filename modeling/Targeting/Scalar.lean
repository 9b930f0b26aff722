import Targeting.Issue
import Targeting.Number.Numeral
import Targeting.Text.CodePoint

/-!
Reads single values from loose input: text only from text, but numbers, integers and truth values
also from the texts that spell them and from one another.
-/

namespace Targeting.Scalar

open Number Text

def readText : Json → Except Issue.Cause String
  | .text s => .ok s
  | _ => .error .notText

/-- Reads a value that may be null. -/
def orNull {α : Type} (read : Json → Except Issue.Cause α) : Json → Except Issue.Cause (Option α)
  | .null => .ok none
  | value => (read value).map some

/-- A number, a numeral, or a truth value counted as zero or one. -/
def readNumber : Json → Except Issue.Cause Binary64
  | .real x => .ok x
  | .integer n =>
      let x := Binary64.ofInt n
      if x.isFinite then .ok x else .error .notNumber
  | .bool b => .ok (.ofNat (if b then 1 else 0))
  | .text s =>
      if !isEncodable s then .error .unencodable
      else
        match readNumber? s with
        | some x => .ok x
        | none => .error .unreadableNumber
  | _ => .error .notNumber

/-- Binary numbers are taken as integers strictly within these bounds. -/
def integerBound : Int := twoPow 63

/-- The integer that a binary number is. -/
def wholeNumber (x : Binary64) : Except Issue.Cause Int :=
  if !x.isFinite then .error .infiniteInteger
  else
    match x.toInt? with
    | none => .error .fractionalInteger
    | some n =>
        if -integerBound < n ∧ n < integerBound then .ok n else .error .oversizedInteger

def readInteger : Json → Except Issue.Cause Int
  | .integer n => .ok n
  | .real x => wholeNumber x
  | .bool b => .ok (if b then 1 else 0)
  | .text s =>
      if !isEncodable s then .error .unencodable
      else
        match integerDigits? s with
        | none => .error .unreadableInteger
        | some (negative, digits) =>
            if integerDigitLimit < digits.length then .error .oversizedInteger
            else
              let n : Int := digitsValue digits
              .ok (if negative then -n else n)
  | _ => .error .notInteger

/-- The spellings of the two truth values, in lower case. -/
def falseSpellings : List String := ["0", "off", "f", "false", "n", "no"]

def trueSpellings : List String := ["1", "on", "t", "true", "y", "yes"]

/-- Zero and one as truth values. -/
def truthOfInteger (n : Int) : Except Issue.Cause Bool :=
  if n = 0 then .ok false else if n = 1 then .ok true else .error .unreadableBool

def readBool : Json → Except Issue.Cause Bool
  | .bool b => .ok b
  | .text s =>
      let spelling := String.ofList (s.toList.map Char.toLower)
      if !isEncodable s then .error .unencodable
      else if falseSpellings.contains spelling then .ok false
      else if trueSpellings.contains spelling then .ok true
      else .error .unreadableBool
  | .integer n =>
      if -integerBound ≤ n ∧ n < integerBound then truthOfInteger n else .error .notBool
  | .real x =>
      match wholeNumber x with
      | .ok n => truthOfInteger n
      | .error _ => .error .notBool
  | _ => .error .notBool

end Targeting.Scalar
