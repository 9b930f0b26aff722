import Targeting.Json.Value
import Targeting.Number.Numeral
import Targeting.Text.Wide

/-!
Reads the text of one value. The grammar is that of JSON with the three named numbers `NaN`,
`Infinity` and `-Infinity`. A malformed text is reported with the number of code points in front of
the place where reading stopped. How deep lists and objects may be nested is up to the reader.
-/

namespace Targeting.Json

open Targeting.Number

/-- Why a text is not a value. -/
inductive ReadError where
  | malformed (position : Nat)
  | oversizedInteger
  /-- A list, or else an object, stands deeper than is read. -/
  | tooDeep (isList : Bool)
  deriving DecidableEq, Repr

/-- How a text is read. -/
structure ReadStyle where
  /-- Numerals are kept as the text that they are written with. -/
  keepsNumerals : Bool

/-- What is left of a text, and how many characters were in front of it, so that errors can name
the place. -/
structure Cursor where
  position : Nat
  rest : List Char

namespace Cursor

def advance (c : Cursor) (n : Nat) : Cursor :=
  ⟨c.position + n, c.rest.drop n⟩

def skipBlanks (c : Cursor) : Cursor :=
  let blank (x : Char) : Bool := x == ' ' || x == '\t' || x == '\n' || x == '\r'
  ⟨c.position + (c.rest.takeWhile blank).length, c.rest.dropWhile blank⟩

def startsWith (c : Cursor) (word : String) : Bool :=
  word.toList.isPrefixOf c.rest

end Cursor

/-- The value of four hexadecimal digits. -/
def fourHex? (cs : List Char) : Option Nat :=
  if cs.length = 4 then
    cs.foldl (fun acc c => acc.bind fun n => (Text.hexValue? c).map (16 * n + ·)) (some 0)
  else none

def simpleEscape? : Char → Option Char
  | '"' => some '"'
  | '\\' => some '\\'
  | '/' => some '/'
  | 'b' => some '\x08'
  | 'f' => some '\x0c'
  | 'n' => some '\n'
  | 'r' => some '\r'
  | 't' => some '\t'
  | _ => none

/-- The low half of a pair when the text goes on with one, and does not end there. -/
def lowHalf? (rest : List Char) : Option Nat :=
  match rest with
  | '\\' :: 'u' :: more =>
      if more.length ≤ 4 then none else (fourHex? (more.take 4)).filter Text.isLowSurrogate
  | _ => none

/-- Reads a text after its opening quote. `start` is the position of that quote. -/
def readText (start : Nat) : Nat → Cursor → List Char → Except ReadError (String × Cursor)
  | 0, _, _ => .error (.malformed start)
  | fuel + 1, c, done =>
      match c.rest with
      | [] => .error (.malformed start)
      | '"' :: _ => .ok (String.ofList done.reverse, c.advance 1)
      | '\\' :: [] => .error (.malformed start)
      | '\\' :: 'u' :: more =>
          match fourHex? (more.take 4) with
          | none => .error (.malformed (c.position + 1))
          | some high =>
              if more.length ≤ 4 then .error (.malformed (c.position + 1))
              else
                match if Text.isHighSurrogate high then lowHalf? (more.drop 4) else none with
                | some low =>
                    readText start fuel (c.advance 12)
                      ((Text.written (Text.joinedSurrogates high low)).reverse ++ done)
                | none =>
                    readText start fuel (c.advance 6) ((Text.written high).reverse ++ done)
      | '\\' :: x :: _ =>
          match simpleEscape? x with
          | none => .error (.malformed c.position)
          | some y => readText start fuel (c.advance 2) (y :: done)
      | x :: _ =>
          if x.toNat ≤ 0x1F then .error (.malformed c.position)
          else readText start fuel (c.advance 1) (x :: done)

/-- The longest numeral at the cursor. -/
def readNumeral (style : ReadStyle) (c : Cursor) : Except ReadError (Json × Cursor) :=
  let (negative, afterSign) :=
    match c.rest with
    | '-' :: rest => (true, rest)
    | rest => (false, rest)
  let whole :=
    match afterSign with
    | '0' :: _ => ['0']
    | rest => rest.takeWhile Char.isDigit
  if whole.isEmpty then .error (.malformed c.position)
  else
    let afterWhole := afterSign.drop whole.length
    let fraction :=
      match afterWhole with
      | '.' :: rest => rest.takeWhile Char.isDigit
      | _ => []
    let fractionLength := if fraction.isEmpty then 0 else fraction.length + 1
    let afterFraction := afterWhole.drop fractionLength
    let (exponentLength, exponent) : Nat × Option Int :=
      match afterFraction with
      | e :: rest =>
          if e = 'e' ∨ e = 'E' then
            let (minus, digits) := takeSign rest
            let signLength := rest.length - digits.length
            let digits := digits.takeWhile Char.isDigit
            if digits.isEmpty then (0, none)
            else
              (1 + signLength + digits.length,
                some (if minus then -(digitsValue digits : Int) else digitsValue digits))
          else (0, none)
      | [] => (0, none)
    let signLength := if negative then 1 else 0
    let length := signLength + whole.length + fractionLength + exponentLength
    let next := c.advance length
    if style.keepsNumerals then .ok (.text (String.ofList (c.rest.take length)), next)
    else if fraction.isEmpty && exponent.isNone then
      if integerDigitLimit < whole.length then .error .oversizedInteger
      else
        let n : Int := digitsValue whole
        .ok (.integer (if negative then -n else n), next)
    else
      let x :=
        Binary64.ofDecimal negative (digitsValue (whole ++ fraction))
          (exponent.getD 0 - fraction.length)
      .ok (.real x, next)

/-- The value of a word at the cursor, if one of the fixed words stands there. -/
def readWord? (c : Cursor) : Option (Json × Cursor) :=
  let words : List (String × Json) :=
    [("null", .null), ("true", .bool true), ("false", .bool false), ("NaN", .real .nan),
      ("Infinity", .real (.infinite false)), ("-Infinity", .real (.infinite true))]
  (words.find? fun (word, _) => c.startsWith word).map fun (word, value) =>
    (value, c.advance word.length)

mutual

/-- Reads a value at the cursor, with no blanks in front of it, in which lists and objects may be
nested to a given depth. -/
def readValue (style : ReadStyle) (depth : Nat) : Nat → Cursor → Except ReadError (Json × Cursor)
  | 0, c => .error (.malformed c.position)
  | fuel + 1, c =>
      match c.rest with
      | [] => .error (.malformed c.position)
      | '"' :: _ => do
          let (s, next) ← readText c.position (c.rest.length) (c.advance 1) []
          pure (.text s, next)
      | '[' :: _ =>
          if depth = 0 then .error (.tooDeep true)
          else
            let c := (c.advance 1).skipBlanks
            match c.rest with
            | ']' :: _ => .ok (.list [], c.advance 1)
            | _ => readItems style (depth - 1) fuel c []
      | '{' :: _ =>
          if depth = 0 then .error (.tooDeep false)
          else
            let c := (c.advance 1).skipBlanks
            match c.rest with
            | '}' :: _ => .ok (.object [], c.advance 1)
            | _ => readFields style (depth - 1) fuel c []
      | _ =>
          match readWord? c with
          | some found => .ok found
          | none => readNumeral style c

/-- Reads the items of a list up to its closing bracket. -/
def readItems (style : ReadStyle) (depth : Nat) :
    Nat → Cursor → List Json → Except ReadError (Json × Cursor)
  | 0, c, _ => .error (.malformed c.position)
  | fuel + 1, c, done => do
      let (value, next) ← readValue style depth fuel c
      let next := next.skipBlanks
      match next.rest with
      | ']' :: _ => pure (.list (value :: done).reverse, next.advance 1)
      | ',' :: _ => readItems style depth fuel (next.advance 1).skipBlanks (value :: done)
      | _ => .error (.malformed next.position)

/-- Reads the fields of an object up to its closing brace. -/
def readFields (style : ReadStyle) (depth : Nat) :
    Nat → Cursor → List (String × Json) → Except ReadError (Json × Cursor)
  | 0, c, _ => .error (.malformed c.position)
  | fuel + 1, c, done =>
      match c.rest with
      | '"' :: _ => do
          let (name, next) ← readText c.position c.rest.length (c.advance 1) []
          let next := next.skipBlanks
          match next.rest with
          | ':' :: _ => do
              let (value, next) ← readValue style depth fuel (next.advance 1).skipBlanks
              let next := next.skipBlanks
              let done := setField done name value
              match next.rest with
              | '}' :: _ => pure (.object done, next.advance 1)
              | ',' :: _ => readFields style depth fuel (next.advance 1).skipBlanks done
              | _ => .error (.malformed next.position)
          | _ => .error (.malformed next.position)
      | _ => .error (.malformed c.position)

end

/-- Reads characters that spell one value and nothing else, nested to a given depth at most. -/
def readAll (style : ReadStyle) (depth : Nat) (cs : List Char) : Except ReadError Json := do
  let (value, next) ← readValue style depth (2 * cs.length + 1) (Cursor.skipBlanks ⟨0, cs⟩)
  let next := next.skipBlanks
  if next.rest.isEmpty then pure value else .error (.malformed next.position)

/-- Reads a text that holds one value and nothing else, nested to a given depth at most. -/
def readWith (style : ReadStyle) (depth : Nat) (s : String) : Except ReadError Json :=
  (readAll style depth s.toList).mapError fun e =>
    match e with
    | .malformed position => .malformed (Text.pointsOf (s.toList.take position)).length
    | other => other

/-- Values from outside may be nested this deep. -/
def nestingLimit : Nat := 940

/-- Reads a text that holds one value and nothing else, nested however deep. -/
def read (s : String) : Except ReadError Json := readWith ⟨false⟩ s.length s

end Targeting.Json
