import Targeting.Http.Address
import Targeting.Json.Value
import Targeting.Text.Blank

/-!
Requests and responses.
-/

namespace Targeting.Http

open Text

structure Request where
  method : String
  address : Address
  headers : List (String × String)
  body : String

/-- Names of headers are the same in any case. -/
def sameName (a b : String) : Bool :=
  a.toList.map Char.toLower == b.toList.map Char.toLower

namespace Request

def header? (r : Request) (name : String) : Option String :=
  (r.headers.find? fun (key, _) => sameName key name).map Prod.snd

/-- The token that a request carries for its bearer, if it carries one. -/
def bearerToken? (r : Request) : Option String := do
  let cs := (← r.header? "authorization").toList
  let scheme := String.ofList (cs.takeWhile (· ≠ ' '))
  let token := String.ofList (trimChars isBlankChar (cs.dropWhile (· ≠ ' ')))
  guard (sameName scheme "bearer" && token ≠ "")
  pure token

/-- The ports that the service leaves out of what it writes. -/
def servicePort? : String → Option Int
  | "http" | "ws" => some 80
  | "https" | "wss" => some 443
  | _ => none

/-- What the service writes in front of a path of the same host. The host is the one that the
request names; a name that is none gives way to the host and the port that the request was sent
to, under the schemes that the service knows. -/
def base (r : Request) : Except Crash String :=
  let named := (r.header? "host").getD r.address.hostAndPort
  let start := r.address.scheme ++ "://"
  if Host.isNamed named then .ok (start ++ named)
  else
    match servicePort? r.address.scheme with
    | none => .error ⟨"KeyError", some (quotedText r.address.scheme)⟩
    | some usual =>
        .ok (start ++ r.address.host ++
          if r.address.port = some usual then "" else ":" ++ r.address.port.elim "None" toString)

/-- The path of a request as it is told; telling it takes a whole address. -/
def place (r : Request) : Except Crash String :=
  r.base.map fun _ => toldPath r.address.shownPath

/-- Characters with a meaning of their own in an address. -/
def isAddressMark (c : Char) : Bool := ":/%#?=@[]!$&'()*+,;".toList.contains c

/-- The address of another path on the same host, with the same query. -/
def addressOf (r : Request) (path : String) : Except Crash String := do
  let query := r.address.query.getD ""
  let tail := if query = "" then "" else "?" ++ query
  pure (Percent.escape isAddressMark ((← r.base) ++ String.ofList (pathInAddress path) ++ tail))

end Request

inductive Body where
  | empty
  | plain (text : String)
  | json (value : Json)

structure Response where
  status : Nat
  headers : List (String × String)
  body : Body
  /-- The id of the request, which goes with every response but those to a crash. -/
  requestId : Option String
  /-- Whether the response tells how long it took. -/
  isTimed : Bool

/-- What is left when not even the response to a crash can be made. -/
def Response.blank : Response := ⟨500, [], .plain "", none, false⟩

end Targeting.Http
