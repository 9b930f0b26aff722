import Targeting.Text.Base64
import Targeting.Text.Blank
import Targeting.Text.Utf8

/-!
Bytes in armour: text between a line that says what begins and a line that says that it ends. Above
a blank line stand headers. The bytes are in the alphabet of sixty-four characters, whole groups
with their padding and nothing else, but for blanks at the ends of lines.
-/

namespace Targeting.Text.Armour

inductive Fault where
  | framing
  | noFirstLabel
  | noLastLabel
  | labels (first last : String)
  | header (line : String)
  | character (position byte : Nat)
  | size (count : Nat)
  | lastCharacter (position byte : Nat)
  | padding
  deriving DecidableEq, Repr

/-- Text in double quotes. -/
def quoted (s : String) : String :=
  let escaped (c : Char) : List Char :=
    if c = '"' ∨ c = '\\' then ['\\', c]
    else if c = '\n' then ['\\', 'n']
    else if c = '\r' then ['\\', 'r']
    else if c = '\t' then ['\\', 't']
    else [c]
  String.ofList ('"' :: s.toList.flatMap escaped ++ ['"'])

def Fault.message : Fault → String
  | framing => "MalformedFraming"
  | noFirstLabel => "MissingBeginTag"
  | noLastLabel => "MissingEndTag"
  | labels first last => "MismatchedTags(" ++ quoted first ++ ", " ++ quoted last ++ ")"
  | header line => "InvalidHeader(" ++ quoted line ++ ")"
  | character position byte =>
      "InvalidData(InvalidByte(" ++ toString position ++ ", " ++ toString byte ++ "))"
  | size count => "InvalidData(InvalidLength(" ++ toString count ++ "))"
  | lastCharacter position byte =>
      "InvalidData(InvalidLastSymbol(" ++ toString position ++ ", " ++ toString byte ++ "))"
  | padding => "InvalidData(InvalidPadding)"

/-- The six bits of a character of the common alphabet. -/
def sextet? (b : Nat) : Option Nat :=
  if b = '-'.toNat ∨ b = '_'.toNat then none else Base64.sextet? b

/-- The first character of a kind at or behind a position. -/
def find? (isIt : Nat → Bool) (position : Nat) (text : List Nat) : Option (Nat × Nat) :=
  ((text.zipIdx position).find? fun (b, _) => isIt b).map fun (b, i) => (i, b)

/-- Checks the last group, which stands at a position and may be padded. -/
def checkLast (position : Nat) (group : List Nat) : Except Fault Unit := do
  let isPad (b : Nat) : Bool := b == Base64.paddingByte
  let data := group.takeWhile (!isPad ·)
  let isBad (b : Nat) : Bool := (sextet? b).isNone
  match find? isBad position data with
  | some (i, b) => throw (.character i b)
  | none => pure ()
  let pads := group.drop data.length
  if !pads.isEmpty && (data.length < 2 || !pads.all isPad) then
    throw (.character (position + data.length) Base64.paddingByte)
  if !group.isEmpty && data.length < 2 then throw (.size (position + data.length))
  if group.length % 4 ≠ 0 then throw .padding
  let last := data.getLast?.getD 0
  let spare := if data.length = 2 then 16 else if data.length = 3 then 4 else 1
  if ((sextet? last).getD 0) % spare ≠ 0 then
    throw (.lastCharacter (position + data.length - 1) last)

/-- Reads bytes in whole groups. -/
def bytes (text : List Nat) : Except Fault (List Nat) := do
  let left := text.length % 4
  let last := text.getLast?.getD 0
  if left = 1 && last ≠ Base64.paddingByte && (sextet? last).isNone then
    throw (.character (text.length - 1) last)
  let position := text.length - if left = 0 then min 4 text.length else left
  let isBad (b : Nat) : Bool := (sextet? b).isNone
  match find? isBad 0 (text.take position) with
  | some (i, b) => throw (.character i b)
  | none => pure ()
  checkLast position (text.drop position)
  (Base64.decode text).mapError fun _ => .padding

/-- What stands in front of a mark, and what stands behind it. -/
def splitAt? (mark : List Char) : List Char → Option (List Char × List Char)
  | [] => none
  | c :: rest =>
      if mark.isPrefixOf (c :: rest) then some ([], (c :: rest).drop mark.length)
      else (splitAt? mark rest).map fun (before, after) => (c :: before, after)

/-- Text between the lines of armour. -/
structure Frame where
  first : List Char
  body : List Char
  last : List Char

def dashes : List Char := "-----".toList

def dropBlanks (cs : List Char) : List Char := cs.dropWhile " \t\n\r".toList.contains

/-- The first frame of a text, and what follows it. -/
def frame? (cs : List Char) : Option (Frame × List Char) := do
  let (_, cs) ← splitAt? (dashes ++ "BEGIN ".toList) cs
  let (first, cs) ← splitAt? dashes cs
  let (body, cs) ← splitAt? (dashes ++ "END ".toList) (dropBlanks cs)
  let (last, cs) ← splitAt? dashes cs
  pure (⟨first, body, last⟩, dropBlanks cs)

/-- What armour holds. -/
structure Block where
  label : String
  content : List Nat
  deriving DecidableEq, Repr

/-- The lines of a text, without the returns at their ends. -/
def lines (cs : List Char) : List (List Char) :=
  let parts := cs.splitOn '\n'
  let parts := if parts.getLast? = some [] then parts.dropLast else parts
  parts.map fun line => if line.getLast? = some '\r' then line.dropLast else line

def checkHeader (line : List Char) : Except Fault Unit :=
  if line.contains ':' then .ok () else .error (.header (String.ofList line))

def Block.ofFrame (f : Frame) : Except Fault Block := do
  if f.first.isEmpty then throw .noFirstLabel
  if f.last.isEmpty then throw .noLastLabel
  if f.first ≠ f.last then throw (.labels (String.ofList f.first) (String.ofList f.last))
  let (headers, data) :=
    ((splitAt? "\n\n".toList f.body).or (splitAt? "\r\n\r\n".toList f.body)).getD ([], f.body)
  let trimEnd (line : List Char) : List Char := (line.reverse.dropWhile isSpace).reverse
  let content ← bytes (bytesOf (String.ofList ((lines data).flatMap trimEnd)))
  (lines headers).forM checkHeader
  pure ⟨String.ofList f.first, content⟩

/-- The first block of a text. -/
def first (s : String) : Except Fault Block :=
  match frame? s.toList with
  | some (f, _) => Block.ofFrame f
  | none => .error .framing

/-- The frames of a text, of which there are no more than it has characters. -/
def framesWithin : Nat → List Char → List Frame
  | 0, _ => []
  | fuel + 1, cs =>
      match frame? cs with
      | some (f, rest) => f :: framesWithin fuel rest
      | none => []

/-- The blocks of a text. There has to be one. -/
def all (s : String) : Except Fault (List Block) := do
  let blocks ← (framesWithin s.length s.toList).mapM Block.ofFrame
  if blocks.isEmpty then throw .framing
  pure blocks

end Targeting.Text.Armour
