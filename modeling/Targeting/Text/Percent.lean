import Targeting.Text.Hex
import Targeting.Text.Utf8

/-!
Percent escapes: a percent sign and two digits to the base sixteen stand for a byte. Writing
escapes the bytes of every character that may not stand for itself. Reading takes a percent sign
without two digits behind it for itself.
-/

namespace Targeting.Text.Percent

/-- Characters that always stand for themselves. -/
def isUnreserved (c : Char) : Bool :=
  c.isAlphanum || c == '-' || c == '.' || c == '_' || c == '~'

def escapedByte (n : Nat) : List Char := '%' :: byteText n

/-- A code point in writing, if `isKept` tells which others of ASCII stand for themselves. -/
def escapedPoint (isKept : Char → Bool) (n : Nat) : List Char :=
  let c := Char.ofNat n
  if n < 0x80 && (isUnreserved c || isKept c) then [c] else (utf8Bytes n).flatMap escapedByte

def escape (isKept : Char → Bool) (s : String) : String :=
  String.ofList ((points s).flatMap (escapedPoint isKept))

/-- The bytes of characters with their escapes undone. -/
def unescapedBytes : List Char → List Nat
  | '%' :: a :: b :: rest =>
      match hexValue? a, hexValue? b with
      | some x, some y => (16 * x + y) :: unescapedBytes rest
      | _, _ => utf8Bytes '%'.toNat ++ unescapedBytes (a :: b :: rest)
  | c :: rest => utf8Bytes c.toNat ++ unescapedBytes rest
  | [] => []

/-- The text with its escapes undone. Bytes that spell nothing are read as replacements. -/
def unescape (s : String) : String := ofUtf8 (unescapedBytes s.toList)

end Targeting.Text.Percent
