import Targeting.Json.Value
import Targeting.Text.CodePoint

/-!
Writes a value as text. The spaced form has ASCII characters only: a space behind each comma and
colon, and every other character as one or two escaped code units. The compact form has no spaces
and keeps all characters but controls.
-/

namespace Targeting.Json

open Targeting.Number

def hexDigit (n : Nat) : Char :=
  Nat.digitChar n

/-- An escaped code unit. -/
def escapedUnit (n : Nat) : List Char :=
  ['\\', 'u', hexDigit (n / 4096 % 16), hexDigit (n / 256 % 16), hexDigit (n / 16 % 16),
    hexDigit (n % 16)]

/-- A code point that is escaped in every form. -/
def escapedPoint? (n : Nat) : Option (List Char) :=
  let c := Char.ofNat n
  if c = '"' then some ['\\', '"']
  else if c = '\\' then some ['\\', '\\']
  else if c = '\n' then some ['\\', 'n']
  else if c = '\r' then some ['\\', 'r']
  else if c = '\t' then some ['\\', 't']
  else if c = '\x08' then some ['\\', 'b']
  else if c = '\x0c' then some ['\\', 'f']
  else if n < 0x20 then some (escapedUnit n)
  else none

/-- A code point as escaped code units, unless it is one of ASCII. -/
def asciiPoint (n : Nat) : List Char :=
  if n ≤ 0x7E then [Char.ofNat n]
  else if n < 0x10000 then escapedUnit n
  else
    let n := n - 0x10000
    escapedUnit (0xD800 + n / 0x400) ++ escapedUnit (0xDC00 + n % 0x400)

/-- A form in which values are written. -/
structure WriteStyle where
  comma : String
  colon : String
  point : Nat → List Char

def WriteStyle.spaced : WriteStyle := ⟨", ", ": ", asciiPoint⟩

def WriteStyle.compact : WriteStyle := ⟨",", ":", Text.written⟩

namespace WriteStyle

def text (style : WriteStyle) (s : String) : String :=
  let inner := (Text.points s).flatMap fun n => (escapedPoint? n).getD (style.point n)
  String.ofList ('"' :: inner ++ ['"'])

end WriteStyle

def writtenNumber : Binary64 → String
  | .nan => "NaN"
  | .infinite negative => if negative then "-Infinity" else "Infinity"
  | x => x.exactText

mutual

def writeIn (style : WriteStyle) : Json → String
  | .null => "null"
  | .bool b => if b then "true" else "false"
  | .integer n => (if n < 0 then "-" else "") ++ digitText n.natAbs
  | .real x => writtenNumber x
  | .text s => style.text s
  | .list items => "[" ++ style.comma.intercalate (writeItems style items) ++ "]"
  | .object fields => "\x7b" ++ style.comma.intercalate (writeFields style fields) ++ "\x7d"

def writeItems (style : WriteStyle) : List Json → List String
  | [] => []
  | item :: rest => writeIn style item :: writeItems style rest

def writeFields (style : WriteStyle) : List (String × Json) → List String
  | [] => []
  | (name, value) :: rest =>
      (style.text name ++ style.colon ++ writeIn style value) :: writeFields style rest

end

/-- The spaced form of a value. -/
def write (value : Json) : String := writeIn .spaced value

/-- The compact form of a value. -/
def writeCompact (value : Json) : String := writeIn .compact value

end Targeting.Json
