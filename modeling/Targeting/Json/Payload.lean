import Targeting.Crash
import Targeting.Json.Writer

/-!
Values as they are sent. A value goes out in its compact form, which has no spelling for numbers
that are not finite and no bytes for surrogates.
-/

namespace Targeting.Json

mutual

/-- A number that is not finite stands somewhere in a value. -/
def hasUnwritable : Json → Bool
  | .real x => !x.isFinite
  | .list items => anyUnwritable items
  | .object fields => anyFieldUnwritable fields
  | _ => false

def anyUnwritable : List Json → Bool
  | [] => false
  | item :: rest => hasUnwritable item || anyUnwritable rest

def anyFieldUnwritable : List (String × Json) → Bool
  | [] => false
  | (_, value) :: rest => hasUnwritable value || anyFieldUnwritable rest

end

/-- The text in which a value is sent. -/
def payload (value : Json) : Except Crash String :=
  if value.hasUnwritable then .error (.value "Out of range float values are not JSON compliant")
  else
    let text := value.writeCompact
    match Crash.ofText? text with
    | some c => .error c
    | none => .ok text

end Targeting.Json
