import Targeting.Text.CodePoint

/-!
Text as bytes. Reading bytes never fails: each longest start of a character that does not go on
as it should is read as one replacement character.
-/

namespace Targeting.Text

/-- The bytes of a code point. -/
def utf8Bytes (n : Nat) : List Nat :=
  if n < 0x80 then [n]
  else if n < 0x800 then [0xC0 + n / 0x40, 0x80 + n % 0x40]
  else if n < 0x10000 then [0xE0 + n / 0x1000, 0x80 + n / 0x40 % 0x40, 0x80 + n % 0x40]
  else
    [0xF0 + n / 0x40000, 0x80 + n / 0x1000 % 0x40, 0x80 + n / 0x40 % 0x40, 0x80 + n % 0x40]

/-- The bytes of a text. -/
def bytesOf (s : String) : List Nat := (points s).flatMap utf8Bytes

/-- A character that has been begun: its value so far, how many bytes are to come, and the bounds
of the next of them. -/
structure Begun where
  value : Nat
  missing : Nat
  least : Nat
  greatest : Nat

def replacementPoint : Nat := 0xFFFD

/-- What a byte is at the start of a character: a whole character, a beginning, or neither. -/
def beginChar (b : Nat) : Nat ⊕ Begun :=
  if b < 0x80 then .inl b
  else if 0xC2 ≤ b ∧ b ≤ 0xDF then .inr ⟨b - 0xC0, 1, 0x80, 0xBF⟩
  else if b = 0xE0 then .inr ⟨0, 2, 0xA0, 0xBF⟩
  else if b = 0xED then .inr ⟨0xD, 2, 0x80, 0x9F⟩
  else if 0xE1 ≤ b ∧ b ≤ 0xEF then .inr ⟨b - 0xE0, 2, 0x80, 0xBF⟩
  else if b = 0xF0 then .inr ⟨0, 3, 0x90, 0xBF⟩
  else if b = 0xF4 then .inr ⟨4, 3, 0x80, 0x8F⟩
  else if 0xF1 ≤ b ∧ b ≤ 0xF3 then .inr ⟨b - 0xF0, 3, 0x80, 0xBF⟩
  else .inl replacementPoint

/-- The code points that bytes spell, with a character begun or not. -/
def readUtf8 : Option Begun → List Nat → List Nat
  | none, [] => []
  | some _, [] => [replacementPoint]
  | begun, b :: rest =>
      let fresh (before : List Nat) : List Nat :=
        match beginChar b with
        | .inl n => before ++ n :: readUtf8 none rest
        | .inr next => before ++ readUtf8 (some next) rest
      match begun with
      | none => fresh []
      | some p =>
          if p.least ≤ b ∧ b ≤ p.greatest then
            let value := p.value * 0x40 + (b - 0x80)
            if p.missing = 1 then value :: readUtf8 none rest
            else readUtf8 (some ⟨value, p.missing - 1, 0x80, 0xBF⟩) rest
          else fresh [replacementPoint]

def ofUtf8 (bytes : List Nat) : String := ofPoints (readUtf8 none bytes)

end Targeting.Text
