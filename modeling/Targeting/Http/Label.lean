import Targeting.Crash
import Targeting.Text.Composition
import Targeting.Text.Nameable
import Targeting.Text.Punycode

/-!
The labels that the name of a host is made of. A label holds letters, digits and hyphens of any
script, in their composed form and in one direction of reading. Where only ASCII will do, a label
with other code points is written in it behind a mark of its own.
-/

namespace Targeting.Http.Label

open Number Text

inductive Fault where
  | nameTooLong
  | tooLong
  | empty
  | notComposed
  | innerHyphens
  | outerHyphen
  | leadingMark
  | joiner (point position : Nat) (label : String)
  | misplaced (point position : Nat) (label : String)
  | forbidden (point position : Nat) (label : String)
  | firstDirection (label : String)
  | direction (position : Nat) (isFromRight : Bool)
  | mixedDigits
  | lastDirection
  | nothingWritten
  | endsInHyphen
  | malformed
  deriving DecidableEq, Repr

namespace Fault

/-- A code point by its number, with four digits at least. -/
def numbered (n : Nat) : String :=
  let digits := (Nat.toDigits 16 n).map Char.toUpper
  String.ofList ("U+".toList ++ List.replicate (4 - digits.length) '0' ++ digits)

def message : Fault → String
  | nameTooLong => "Domain too long"
  | tooLong => "Label too long"
  | empty => "Empty Label"
  | notComposed => "Label must be in Normalization Form C"
  | innerHyphens => "Label has disallowed hyphens in 3rd and 4th position"
  | outerHyphen => "Label must not start or end with a hyphen"
  | leadingMark => "Label begins with an illegal combining character"
  | joiner n position label =>
      "Unknown codepoint adjacent to joiner " ++ numbered n ++ " at position "
        ++ digitText position ++ " in " ++ quotedText label
  | misplaced n position label =>
      "Codepoint " ++ numbered n ++ " not allowed at position " ++ digitText position ++ " in "
        ++ quotedText label
  | forbidden n position label =>
      "Codepoint " ++ numbered n ++ " at position " ++ digitText position ++ " of "
        ++ quotedText label ++ " not allowed"
  | firstDirection label =>
      "First codepoint in label " ++ quotedText label ++ " must be directionality L, R or AL"
  | direction position isFromRight =>
      "Invalid direction for codepoint at position " ++ digitText position ++ " in a "
        ++ (if isFromRight then "right-to-left" else "left-to-right") ++ " label"
  | mixedDigits => "Can not mix numeral types in a right-to-left label"
  | lastDirection => "Label ends with illegal codepoint directionality"
  | nothingWritten => "Malformed A-label, no Punycode eligible content found"
  | endsInHyphen => "A-label must not end with a hyphen"
  | malformed => "Invalid A-label"

def crash (f : Fault) : Crash :=
  let label :=
    match f with
    | misplaced .. => "InvalidCodepointContext"
    | forbidden .. => "InvalidCodepoint"
    | firstDirection .. | direction .. | mixedDigits | lastDirection => "IDNABidiError"
    | _ => "IDNAError"
  ⟨label, some f.message⟩

end Fault

/-- How many code points the name of a host may have. -/
def nameLimit : Nat := 253

/-- How many characters a label of ASCII may have. -/
def limit : Nat := 63

def hyphen : Nat := '-'.toNat

def checkHyphens (ns : List Nat) : Except Fault Unit := do
  if (ns.drop 2).take 2 = [hyphen, hyphen] then throw .innerHyphens
  if ns.head? = some hyphen ∨ ns.getLast? = some hyphen then throw .outerHyphen

/-- A joiner goes behind a mark that silences a vowel; one that keeps letters apart also goes
between letters that would be bound to each other. What is in front is given last first. -/
def joins (n : Nat) (before after : List Nat) : Bool :=
  before.head?.any (markOrder · = silencingOrder)
    || (n = 0x200C && ((before.dropWhile isBoundThrough).head?.any isBoundBehind)
      && ((after.dropWhile isBoundThrough).head?.any isBoundBefore))

def isJoiner (n : Nat) : Bool := n = 0x200C || n = 0x200D

/-- Arabic digits, and those of the east. -/
def isArabicDigit (n : Nat) : Bool := 0x660 ≤ n && n ≤ 0x669

def isEasternDigit (n : Nat) : Bool := 0x6F0 ≤ n && n ≤ 0x6F9

/-- The neighbours under which a code point may stand in a label, for those that may not stand
anywhere; `none` for one that may stand nowhere. -/
def fits? (n : Nat) (before after label : List Nat) : Option Bool :=
  if n = 0xB7 then some (before.head? = some 'l'.toNat && after.head? = some 'l'.toNat)
  else if n = 0x375 then some (after.head?.any isGreek)
  else if n = 0x5F3 ∨ n = 0x5F4 then some (before.head?.any isHebrew)
  else if n = 0x30FB then some (label.any isJapanese)
  else if isArabicDigit n then some (!label.any isEasternDigit)
  else if isEasternDigit n then some (!label.any isArabicDigit)
  else none

/-- Checks the code points of a label one by one. -/
def checkPoints (label before : List Nat) : List Nat → Except Fault Unit
  | [] => .ok ()
  | n :: after =>
      let position := before.length + 1
      let text := ofPoints label
      if isNameable n then checkPoints label (n :: before) after
      else if isJoiner n then
        if joins n before after then checkPoints label (n :: before) after
        else .error (.joiner n position text)
      else
        match fits? n before after label with
        | some true => checkPoints label (n :: before) after
        | some false => .error (.misplaced n position text)
        | none => .error (.forbidden n position text)

/-- What may stand in a label that is read from the right, and in one that is read from the
left. -/
def mayStand (isFromRight : Bool) : Direction → Bool
  | .digit | .separator | .neutral | .joiner | .mark => true
  | .right | .arabic | .arabicDigit => isFromRight
  | .left => !isFromRight

/-- What a label may end with, marks apart. -/
def mayEnd (isFromRight : Bool) : Direction → Bool
  | .digit => true
  | .right | .arabic | .arabicDigit => isFromRight
  | .left => !isFromRight
  | _ => false

/-- Checks the directions from a position on, when digits of one kind may have come before. -/
def checkDirections (isFromRight : Bool) (digits : Option Direction) (position : Nat) :
    List Direction → Except Fault Unit
  | [] => .ok ()
  | d :: rest => do
      if !mayStand isFromRight d then throw (.direction position isFromRight)
      let isDigit := isFromRight && (d = .digit || d = .arabicDigit)
      if isDigit && digits.any (· ≠ d) then throw .mixedDigits
      checkDirections isFromRight (if isDigit then some d else digits) (position + 1) rest

/-- A label with letters that are read from the right keeps to one direction. -/
def checkReading (ns : List Nat) : Except Fault Unit := do
  let ds := ns.map direction
  let isFromRight (d : Direction) : Bool := d = .right || d = .arabic
  if !ds.any fun d => isFromRight d || d = .arabicDigit then return
  let first := ds.head?.getD .left
  if !isFromRight first && first ≠ .left then throw (.firstDirection (ofPoints ns))
  checkDirections (isFromRight first) none 1 ds
  if !((ds.reverse.dropWhile (· = .mark)).head?.any (mayEnd (isFromRight first))) then
    throw .lastDirection

/-- Checks a label of any script. -/
def check (ns : List Nat) : Except Fault Unit := do
  if ns.isEmpty then throw .empty
  if composed ns ≠ ns then throw .notComposed
  checkHyphens ns
  if ns.head?.any isMark then throw .leadingMark
  checkPoints ns [] ns
  checkReading ns

/-- The mark in front of a label that is written in ASCII. -/
def asciiMark : List Char := "xn--".toList

/-- Checks a label of ASCII, which may stand for one of another script. -/
def checkAscii (cs : List Char) : Except Fault Unit :=
  let cs := cs.map Char.toLower
  if asciiMark.isPrefixOf cs then
    let written := cs.drop asciiMark.length
    if written.isEmpty then .error .nothingWritten
    else if written.getLast? = some '-' then .error .endsInHyphen
    else
      match Punycode.decode? written with
      | some ns => check ns
      | none => .error .malformed
  else check (cs.map Char.toNat)

/-- A label in ASCII. -/
def inAscii (ns : List Nat) : Except Fault (List Char) := do
  let label ←
    if ns.all (· < 0x80) then
      let cs := ns.map Char.ofNat
      checkAscii cs
      pure cs
    else
      check ns
      pure (asciiMark ++ Punycode.encode ns)
  if limit < label.length then throw .tooLong
  pure label

/-- The dots that part labels. -/
def isDot (n : Nat) : Bool := [0x2E, 0x3002, 0xFF0E, 0xFF61].contains n

/-- The labels of the name of a host, and whether a dot stands behind the last one. -/
def split (ns : List Nat) : List (List Nat) × Bool :=
  let labels := ns.splitOnP isDot
  if labels.getLast? = some [] then (labels.dropLast, true) else (labels, false)

def checkLength (ns : List Nat) (endsInDot : Bool) : Except Fault Unit :=
  if nameLimit + (if endsInDot then 1 else 0) < ns.length then .error .nameTooLong else .ok ()

/-- The name of a host in ASCII. -/
def nameInAscii (ns : List Nat) : Except Fault String := do
  checkLength ns true
  let (labels, endsInDot) := split ns
  let written ← labels.mapM inAscii
  let name := ['.'].intercalate (written ++ if endsInDot then [[]] else [])
  checkLength (name.map Char.toNat) endsInDot
  pure (String.ofList name)

/-- Checks the name of a host that starts with a label written in ASCII. Other names need no
check. -/
def checkName (name : String) : Except Fault Unit := do
  let cs := name.toList
  if asciiMark.isPrefixOf cs then
    checkLength (cs.map Char.toNat) true
    (split (cs.map Char.toNat)).1.forM fun label => checkAscii (label.map Char.ofNat)

end Targeting.Http.Label
