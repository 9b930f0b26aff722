/-!
Code points written in letters, digits and hyphens. What is in ASCII is written first and as it is.
The others follow in increasing order, each by how far it lies from the one before, where all the
places between code points are passed for every code point on the way. Distances are numbers to the
base 36, whose digits say themselves whether another one follows.
-/

namespace Targeting.Text.Punycode

/-- The first code point that is not written as it is. -/
def firstPoint : Nat := 0x80

/-- The last code point of all. -/
def highestPoint : Nat := 0x10FFFF

/-- The digits are the small letters and the ten digits, in this order. -/
def digit (d : Nat) : Char := Char.ofNat (if d < 26 then 'a'.toNat + d else '0'.toNat + (d - 26))

def digitValue? (c : Char) : Option Nat :=
  if c.isLower then some (c.toNat - 'a'.toNat)
  else if c.isUpper then some (c.toNat - 'A'.toNat)
  else if c.isDigit then some (c.toNat - '0'.toNat + 26)
  else none

/-- The least digit at a place that another one follows. -/
def threshold (place bias : Nat) : Nat := min 26 (max 1 (36 * (place + 1) - bias))

theorem threshold_pos (place bias : Nat) : 0 < threshold place bias := by
  simp only [threshold]
  omega

/-- How often a distance has to be cut down to be small, and what is left of it then. -/
def cutDown (cuts distance : Nat) : Nat × Nat :=
  if 455 < distance then cutDown (cuts + 1) (distance / 35) else (cuts, distance)
termination_by distance

/-- The bias behind a distance, when there are so many code points. -/
def biasAfter (distance count : Nat) (isFirst : Bool) : Nat :=
  let distance := distance / if isFirst then 700 else 2
  let (cuts, rest) := cutDown 0 (distance + distance / count)
  36 * cuts + 36 * rest / (rest + 38)

def firstBias : Nat := 72

/-- The digits of a number from a place on. -/
def number (bias place n : Nat) : List Char :=
  let least := threshold place bias
  if n < least then [digit n]
  else
    digit (least + (n - least) % (36 - least))
      :: number bias (place + 1) ((n - least) / (36 - least))
termination_by n
decreasing_by
  have := threshold_pos place bias
  have := Nat.div_le_self (n - threshold place bias) (36 - threshold place bias)
  omega

/-- What has been written: digits, and how far it is to where the next one is due. -/
structure Writing where
  digits : List Char
  distance : Nat
  bias : Nat
  count : Nat

/-- Passes by one code point of the text, and writes it if it is the one that is due. -/
def Writing.pass (basic due : Nat) (w : Writing) (n : Nat) : Writing :=
  if n < due then { w with distance := w.distance + 1 }
  else if n = due then
    ⟨w.digits ++ number w.bias 0 w.distance, 0,
      biasAfter w.distance (w.count + 1) (w.count == basic), w.count + 1⟩
  else w

/-- Writes a code point at all of its places, when all below `low` have been written. -/
def Writing.add (ns : List Nat) (basic : Nat) : Writing × Nat → Nat → Writing × Nat
  | (w, low), due =>
      let w := { w with distance := w.distance + (due - low) * (w.count + 1) }
      let w := ns.foldl (pass basic due) w
      ({ w with distance := w.distance + 1 }, due + 1)

def encode (ns : List Nat) : List Char :=
  let basic := ns.filter (· < firstPoint)
  let others := ((ns.filter (firstPoint ≤ ·)).eraseDups).mergeSort
  let (w, _) := others.foldl (Writing.add ns basic.length)
    (⟨[], 0, firstBias, basic.length⟩, firstPoint)
  basic.map Char.ofNat ++ (if basic.isEmpty then [] else ['-']) ++ w.digits

/-- What has been read: code points, which one was put in last and the place behind it, and the
part of a distance that has been read. -/
structure Progress where
  points : List Nat
  point : Nat
  place : Nat
  bias : Nat
  isFirst : Bool
  distance : Nat
  weight : Nat
  digits : Nat

def Progress.start (basic : List Nat) : Progress :=
  ⟨basic, firstPoint, 0, firstBias, true, 0, 1, 0⟩

/-- Puts in the code point at a distance. -/
def Progress.insert (p : Progress) (distance : Nat) : Option Progress :=
  let count := p.points.length + 1
  let sum := p.place + distance
  let point := p.point + sum / count
  let place := sum % count
  if highestPoint < point then none
  else
    some ⟨p.points.insertIdx place point, point, place + 1,
      biasAfter distance count p.isFirst, false, 0, 1, 0⟩

def Progress.add (p : Progress) (c : Char) : Option Progress := do
  let d ← digitValue? c
  let least := threshold p.digits p.bias
  let distance := p.distance + d * p.weight
  if d < least then p.insert distance
  else
    pure { p with
      distance := distance
      weight := p.weight * (36 - least)
      digits := p.digits + 1 }

/-- Reads what was written; a distance must not break off. -/
def decode? (cs : List Char) : Option (List Nat) := do
  let digits := (cs.reverse.takeWhile (· ≠ '-')).reverse
  let basic := cs.take (cs.length - digits.length - 1)
  let p ← digits.foldlM Progress.add (Progress.start (basic.map Char.toNat))
  if p.digits = 0 then some p.points else none

end Targeting.Text.Punycode
