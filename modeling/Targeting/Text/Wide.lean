import Targeting.Text.CodePoint

/-!
Text in which every character takes two bytes, or a pair of twos, or four. Such bytes give
themselves away by the zeros among the first of them, because text of interest starts with
characters of ASCII.
-/

namespace Targeting.Text

/-- How bytes hold text: one by one, or in groups of two or four, the last byte of a group first or
not. -/
inductive Grouping where
  | single
  | groups (size : Nat) (isReversed : Bool)
  deriving DecidableEq, Repr

/-- The grouping that the first bytes of a text tell. -/
def Grouping.of : List Nat → Grouping
  | [a, b] => if a = 0 then .groups 2 false else if b = 0 then .groups 2 true else .single
  | a :: b :: c :: d :: _ =>
      if a = 0 then (if b = 0 then .groups 4 false else .groups 2 false)
      else if b = 0 then (if c = 0 ∧ d = 0 then .groups 4 true else .groups 2 true)
      else .single
  | _ => .single

/-- The number that a group of bytes spells. -/
def groupValue (isReversed : Bool) (group : List Nat) : Nat :=
  (if isReversed then group.reverse else group).foldl (fun n b => 0x100 * n + b) 0

/-- The numbers of the groups of a size; `none` when bytes are left over. The first argument bounds
how many groups there are. -/
def groupValues? (size : Nat) (isReversed : Bool) : Nat → List Nat → Option (List Nat)
  | _, [] => some []
  | 0, _ => none
  | bound + 1, bytes =>
      let group := bytes.take size
      if group.length < size then none
      else
        (groupValues? size isReversed bound (bytes.drop size)).map
          (groupValue isReversed group :: ·)

/-- The code point of two halves. -/
def joinedSurrogates (high low : Nat) : Nat :=
  0x10000 + (high - 0xD800) * 0x400 + (low - 0xDC00)

/-- The code points of code units: a high half and a low half behind it are one code point. -/
def joinUnits : List Nat → List Nat
  | high :: low :: rest =>
      if isHighSurrogate high && isLowSurrogate low then
        joinedSurrogates high low :: joinUnits rest
      else high :: joinUnits (low :: rest)
  | rest => rest

/-- The code points of groups of two or four bytes; `none` for bytes left over and for numbers
beyond the last code point. -/
def readGroups? (size : Nat) (isReversed : Bool) (bytes : List Nat) : Option (List Nat) := do
  let values ← groupValues? size isReversed bytes.length bytes
  if size = 2 then pure (joinUnits values)
  else
    guard (values.all (· ≤ lastPoint))
    pure values

end Targeting.Text
