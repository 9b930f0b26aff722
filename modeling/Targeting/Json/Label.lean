import Targeting.Json.Value
import Targeting.Text.Printable
import Targeting.Text.CodePoint

/-!
The text of a value inside a message. Text stands as it is; inside a list or an object it is
quoted, and so is a name that a message quotes.
-/

namespace Targeting

open Number Text

/-- A code point within quotes. -/
def quotedPoint (quote : Char) (n : Nat) : List Char :=
  let c := Char.ofNat n
  if n = quote.toNat ∨ c = '\\' then ['\\', c]
  else if c = '\n' then ['\\', 'n']
  else if c = '\r' then ['\\', 'r']
  else if c = '\t' then ['\\', 't']
  else if isPrintable n then [c]
  else escapedPoint n

/-- Text in single quotes, or in double quotes when it holds single quotes only. -/
def quotedText (s : String) : String :=
  let cs := s.toList
  let quote := if cs.contains '\'' && !cs.contains '"' then '"' else '\''
  String.ofList (quote :: (pointsOf cs).flatMap (quotedPoint quote) ++ [quote])

namespace Json

/-- The kind of a value, as it is named in a message. -/
def kindName : Json → String
  | .null => "NoneType"
  | .bool _ => "bool"
  | .integer _ => "int"
  | .real _ => "float"
  | .text _ => "str"
  | .list _ => "list"
  | .object _ => "dict"

mutual

/-- A value inside a list or an object. -/
def innerLabel : Json → String
  | .null => "None"
  | .bool b => if b then "True" else "False"
  | .integer n => (if n < 0 then "-" else "") ++ digitText n.natAbs
  | .real x => x.exactText
  | .text s => quotedText s
  | .list items => "[" ++ ", ".intercalate (itemLabels items) ++ "]"
  | .object fields => "\x7b" ++ ", ".intercalate (fieldLabels fields) ++ "\x7d"

def itemLabels : List Json → List String
  | [] => []
  | item :: rest => innerLabel item :: itemLabels rest

def fieldLabels : List (String × Json) → List String
  | [] => []
  | (name, value) :: rest => (quotedText name ++ ": " ++ innerLabel value) :: fieldLabels rest

end

/-- A value on its own. -/
def label : Json → String
  | .text s => s
  | value => innerLabel value

end Json

end Targeting
