/-!
Bytes as text of sixty-four characters, in the alphabet for addresses. Writing leaves the padding
out. Reading takes the common alphabet as well, passes over characters of neither, adds the
padding that is missing, and stops at padding that completes a group.
-/

namespace Targeting.Text.Base64

/-- Why a text holds no bytes. -/
inductive Fault where
  | padding
  /-- After so many characters one is left over, which is less than a byte. -/
  | leftOver (count : Nat)
  deriving DecidableEq, Repr

def Fault.message : Fault → String
  | .padding => "Incorrect padding"
  | .leftOver count =>
      "Invalid base64-encoded string: number of data characters ("
        ++ String.ofList (Nat.toDigits 10 count) ++ ") cannot be 1 more than a multiple of 4"

/-- The six bits of a character. -/
def sextet? (b : Nat) : Option Nat :=
  if 0x41 ≤ b ∧ b ≤ 0x5A then some (b - 0x41)
  else if 0x61 ≤ b ∧ b ≤ 0x7A then some (b - 0x61 + 26)
  else if 0x30 ≤ b ∧ b ≤ 0x39 then some (b - 0x30 + 52)
  else if b = 0x2B ∨ b = 0x2D then some 62
  else if b = 0x2F ∨ b = 0x5F then some 63
  else none

/-- The character of six bits. -/
def character (n : Nat) : Char :=
  if n < 26 then Char.ofNat (0x41 + n)
  else if n < 52 then Char.ofNat (0x61 + (n - 26))
  else if n < 62 then Char.ofNat (0x30 + (n - 52))
  else if n = 62 then '-'
  else '_'

def paddingByte : Nat := 0x3D

/-- How far a group of four characters has been read: characters so far, the bits of the last of
them that belong to the next byte, and padding seen. -/
structure Group where
  filled : Nat
  left : Nat
  pads : Nat

/-- Reads characters, given as bytes, after `count` of them have been read. -/
def decodeFrom (g : Group) (count : Nat) : List Nat → Except Fault (List Nat)
  | [] =>
      if g.filled = 0 then .ok []
      else .error (if g.filled = 1 then .leftOver count else .padding)
  | b :: rest =>
      if b = paddingByte then
        if g.filled < 2 then decodeFrom g count rest
        else if 4 ≤ g.filled + g.pads + 1 then .ok []
        else decodeFrom ⟨g.filled, g.left, g.pads + 1⟩ count rest
      else
        match sextet? b with
        | none => decodeFrom g count rest
        | some n =>
            match g.filled with
            | 0 => decodeFrom ⟨1, n, 0⟩ (count + 1) rest
            | 1 =>
                (decodeFrom ⟨2, n % 16, 0⟩ (count + 1) rest).map ((g.left * 4 + n / 16) :: ·)
            | 2 =>
                (decodeFrom ⟨3, n % 4, 0⟩ (count + 1) rest).map ((g.left * 16 + n / 4) :: ·)
            | _ => (decodeFrom ⟨0, 0, 0⟩ (count + 1) rest).map ((g.left * 64 + n) :: ·)

/-- Reads a text, given as bytes. -/
def decode (text : List Nat) : Except Fault (List Nat) :=
  decodeFrom ⟨0, 0, 0⟩ 0 (text ++ List.replicate ((4 - text.length % 4) % 4) paddingByte)

/-- Writes bytes. -/
def encode : List Nat → List Char
  | a :: b :: c :: rest =>
      character (a / 4) :: character (a % 4 * 16 + b / 16) :: character (b % 16 * 4 + c / 64)
        :: character (c % 64) :: encode rest
  | [a, b] => [character (a / 4), character (a % 4 * 16 + b / 16), character (b % 16 * 4)]
  | [a] => [character (a / 4), character (a % 4 * 16)]
  | [] => []

end Targeting.Text.Base64
