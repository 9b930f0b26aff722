import Targeting.Crypto.Sha2
import Targeting.Number.Rounding

/-!
Keys as nested elements. An element is a tag, a length and so many bytes; they hold a number, a
name, or further elements. A reader takes what it asks for from the front, and finds the first
fault.
-/

namespace Targeting.Crypto.Der

inductive Fault where
  | short (needed : Nat)
  | length
  | tag
  | unexpected (found : Nat)
  | value
  | extra
  | unknownKind
  deriving DecidableEq, Repr

/-- A tag by its parts: a number, whether further elements are inside, and a class. -/
def tagText (tag : Nat) : String :=
  let classes := ["Universal", "Application", "ContextSpecific", "Private"]
  "Tag \x7b value: " ++ toString (tag % 32) ++ ", constructed: " ++ toString (tag / 32 % 2 == 1)
    ++ ", class: " ++ (classes[tag / 64]?).getD "" ++ " \x7d"

def Fault.message : Fault → String
  | short needed => "short data (needed at least " ++ toString needed ++ " additional bytes)"
  | length => "invalid length"
  | tag => "invalid tag"
  | unexpected found => "unexpected tag (got " ++ tagText found ++ ")"
  | value => "invalid value"
  | extra => "extra data"
  | unknownKind => "unknown key"

abbrev Reader := StateT (List Nat) (Except Fault)

/-- So many bytes. -/
def take (n : Nat) : Reader (List Nat) := do
  let bytes ← get
  if bytes.length < n then throw (.short (n - bytes.length))
  set (bytes.drop n)
  pure (bytes.take n)

def byte : Reader Nat := do pure ((← take 1).headD 0)

/-- A length: one byte if it is below 128, and else as few bytes as possible behind their count. -/
def length : Reader Nat := do
  let first ← byte
  if first < 0x80 then return first
  let count := first - 0x80
  if count = 0 ∨ 4 < count then throw .length
  let n := Sha2.ofBytes (← take count)
  if n < 0x80 ∨ n < Nat.pow 256 (count - 1) then throw .length
  pure n

/-- An element of any tag. -/
def element : Reader (Nat × List Nat) := do
  let tag ← byte
  if tag % 32 = 31 then throw .tag
  let n ← length
  pure (tag, ← take n)

/-- The content of an element of one tag. -/
def content (tag : Nat) : Reader (List Nat) := do
  let (found, bytes) ← element
  if found ≠ tag then throw (.unexpected found)
  pure bytes

/-- Reads bytes from the first to the last. -/
def whole {α : Type} (r : Reader α) (bytes : List Nat) : Except Fault α := do
  let (a, rest) ← r.run bytes
  if !rest.isEmpty then throw .extra
  pure a

/-- What is inside of an element of one tag. -/
def inside {α : Type} (tag : Nat) (r : Reader α) : Reader α := do
  let bytes ← content tag
  (whole r bytes : Except Fault α)

/-- What is inside of a list of elements. -/
def list {α : Type} (r : Reader α) : Reader α := inside 0x30 r

/-- A number that is not negative, in as few bytes as possible. -/
def number : Reader Nat := do
  match ← content 0x02 with
  | [] => throw .value
  | [b] => if b < 0x80 then pure b else throw .value
  | a :: b :: rest =>
      if 0x80 ≤ a ∨ (a = 0 ∧ b < 0x80) then throw .value
      pure (Sha2.ofBytes (a :: b :: rest))

def name : Reader (List Nat) := content 0x06

def bytes : Reader (List Nat) := content 0x04

/-- Bits that fill whole bytes. -/
def bits : Reader (List Nat) := do
  match ← content 0x03 with
  | 0 :: rest => pure rest
  | _ => throw .value

/-- Drops what is left. -/
def skip : Reader Unit := set ([] : List Nat)

/-- Whether the next element has a tag. -/
def isNext (tag : Nat) : Reader Bool := do pure ((← get).head? == some tag)

end Targeting.Crypto.Der
