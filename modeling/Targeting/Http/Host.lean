import Targeting.Number.Numeral
import Targeting.Text.Percent

/-!
Hosts by name. A host is four numbers, or groups of digits to the base sixteen in brackets, or a
registered name. Whether a text is a host at all is seen in two ways: by a client, which refuses
numbers that do not fit and escapes what a name may not hold, and by the service, which takes no
name but one that needs no escapes.
-/

namespace Targeting.Http.Host

open Number Text

/-- Four numbers below 256 with points between them, none with a zero in front. -/
def isFourNumbers (cs : List Char) : Bool :=
  let isNumber (part : List Char) : Bool :=
    !part.isEmpty && part.length ≤ 3 && part.all Char.isDigit
      && (part.head? != some '0' || part == ['0']) && digitsValue part ≤ 255
  let parts := cs.splitOn '.'
  parts.length == 4 && parts.all isNumber

/-- How far four runs of digits with any one character between them have been read: which run, and
whether it has begun. -/
abbrev RunState := Nat × Bool

/-- All states that a character leads to. -/
def runStep (states : List RunState) (c : Char) : List RunState :=
  (states.flatMap fun (run, hasBegun) =>
    (if c.isDigit then [(run, true)] else [])
      ++ if hasBegun && run < 3 then [(run + 1, false)] else []).eraseDups

/-- A text that looks like four numbers, with anything for the points. -/
def looksLikeNumbers (cs : List Char) : Bool :=
  (cs.foldl runStep [(0, false)]).contains (3, true)

/-- A group of digits to the base sixteen. -/
def isGroup (part : List Char) : Bool :=
  !part.isEmpty && part.length ≤ 4 && part.all fun c => (hexValue? c).isSome

/-- The parts between colons with four numbers at the end counted as two groups. -/
def groupParts? (parts : List (List Char)) : Option (List (List Char)) :=
  match parts.getLast? with
  | some last =>
      if !last.contains '.' then some parts
      else if isFourNumbers last then some (parts.dropLast ++ [['0'], ['0']])
      else none
  | none => none

/-- Eight groups, or fewer around one place that is left empty. -/
def areGroups (parts : List (List Char)) : Bool :=
  let inner := parts.drop 1 |>.dropLast
  match inner.countP (·.isEmpty) with
  | 0 => parts.length == 8 && parts.all isGroup
  | 1 =>
      let before := (inner.takeWhile (!·.isEmpty)).length + 1
      let high := parts.take before
      let low := parts.drop (before + 1)
      let high := if high == [[]] then [] else high
      let low := if low == [[]] then [] else low
      high.length + low.length < 8 && (high ++ low).all isGroup
  | _ => false

/-- What stands in brackets: groups between colons, perhaps with a zone behind a percent sign. -/
def isGrouped (cs : List Char) : Bool :=
  let address := cs.takeWhile (· ≠ '%')
  let zone := cs.drop address.length
  let parts := address.splitOn ':'
  !cs.contains '/' && (zone.isEmpty || (zone.length != 1 && !(zone.drop 1).contains '%'))
    && 3 ≤ parts.length && (groupParts? parts).any areGroups

/-- What stands between the brackets of a host in brackets. -/
def inBrackets? (cs : List Char) : Option (List Char) :=
  if cs.head? == some '[' && 2 ≤ cs.length && cs.getLast? == some ']' then
    some (cs.drop 1).dropLast
  else none

/-- Marks that stand for themselves in a name. -/
def marks : List Char := "!$&'()*+,;=%".toList

/-- A host that the service takes from a request: a name or groups in brackets, and a port. -/
def isNamed (s : String) : Bool :=
  let cs := s.toList
  let isMark (c : Char) : Bool := Percent.isUnreserved c || marks.contains c
  let (isHost, rest) :=
    match cs with
    | '[' :: more =>
        let inner := more.takeWhile (· ≠ ']')
        (more.contains ']' && isGrouped inner, more.drop (inner.length + 1))
    | _ => ((cs.head?).any isMark, cs.dropWhile isMark)
  let isPort :=
    match rest with
    | [] => true
    | ':' :: digits => digits.all Char.isDigit && digitsValue digits ≤ 65535
    | _ => false
  isHost && isPort

end Targeting.Http.Host
