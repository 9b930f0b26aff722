import Targeting.Json.Label

/-!
Errors that nothing provides for. They are known by the label of their kind; their words, where
they have any, are for developers.
-/

namespace Targeting

structure Crash where
  label : String
  /-- A driver's own words may hold data of the store and are left out. -/
  message? : Option String
  deriving DecidableEq, Repr

namespace Crash

def message (c : Crash) : String := c.message?.getD ""

/-- An error of a driver. -/
def driver (label : String) : Crash := ⟨label, none⟩

/-- A value of a kind that an operation has no use for. -/
def kind (message : String) : Crash := ⟨"TypeError", some message⟩

/-- A value of the right kind that does not fit. -/
def value (message : String) : Crash := ⟨"ValueError", some message⟩

/-- A whole number beyond the range of binary numbers. -/
def tooLarge : Crash := ⟨"OverflowError", some "int too large to convert to float"⟩

/-- A time beyond the ends of the calendar. -/
def outOfCalendar : Crash := ⟨"OverflowError", some "date value out of range"⟩

/-- An operation on two values of kinds that it does not join. -/
def operands (operation : String) (a b : Json) : Crash :=
  kind ("unsupported operand type(s) for " ++ operation ++ ": '" ++ a.kindName ++ "' and '"
    ++ b.kindName ++ "'")

/-- A value that lacks something that is asked of it. -/
def lacking (value : Json) (name : String) : Crash :=
  ⟨"AttributeError",
    some ("'" ++ value.kindName ++ "' object has no attribute '" ++ name ++ "'")⟩

/-- Names in quotes, side by side. -/
def quotedNames (names : List String) : String :=
  match names.map quotedText with
  | [] => ""
  | [a] => a
  | [a, b] => a ++ " and " ++ b
  | many => ", ".intercalate many.dropLast ++ ", and " ++ many.getLast?.getD ""

/-- An error is made without some of the arguments that it needs. -/
def missingArguments (owner : String) (names : List String) : Crash :=
  kind (owner ++ ".__init__() missing " ++ Number.digitText names.length
    ++ " required positional argument" ++ (if names.length = 1 then "" else "s") ++ ": "
    ++ quotedNames names)

/-- An error is made with more arguments than it takes. -/
def extraArguments (owner : String) (least most given : Nat) : Crash :=
  let taken :=
    if least = most then Number.digitText most
    else "from " ++ Number.digitText least ++ " to " ++ Number.digitText most
  kind (owner ++ ".__init__() takes " ++ taken ++ " positional argument"
    ++ (if most = 1 then "" else "s") ++ " but " ++ Number.digitText given ++ " were given")

/-- An error is made with an argument that it does not know. -/
def unknownArgument (owner name : String) : Crash :=
  kind (owner ++ ".__init__() got an unexpected keyword argument " ++ quotedText name)

/-- Text without bytes, where bytes are needed. -/
def ofText? (s : String) : Option Crash :=
  (Text.encodingComplaint? s).map fun complaint => ⟨"UnicodeEncodeError", some complaint⟩

/-- The first of several texts that has no bytes. -/
def ofTexts? (texts : List String) : Option Crash := texts.findSome? ofText?

end Crash

end Targeting
