import Targeting.Http.Message
import Targeting.Json.Payload

/-!
A client of the service. It makes a request out of what it is asked to send, and refuses what
cannot be sent. Where a response leads elsewhere, it looks whether that is an address.
-/

namespace Targeting.Http.Client

open Text

/-- The body that a client is asked to send. -/
inductive Content where
  | text (s : String)
  | json (value : Json)

/-- What a client is asked to send. -/
structure Order where
  /-- The method, in letters of any case. -/
  method : String
  /-- The address, or what is written of it behind the host of the service. -/
  written : String
  headers : List (String × Json)
  credentials : Option String
  content : Content

/-- The host that addresses are written for. -/
def host : String := "test"

/-- The text of a header. -/
def headerText (value : Json) : Except Crash String :=
  match value with
  | .text s => .ok s
  | _ => .error (.kind ("Header value must be str or bytes, not <class '" ++ value.kindName
      ++ "'>"))

/-- Headers hold characters of ASCII only. -/
def checkAscii (s : String) : Except Crash Unit :=
  match asciiComplaint? s with
  | some complaint => .error ⟨"UnicodeEncodeError", some complaint⟩
  | none => .ok ()

/-- A header as it goes out. -/
def header (name : String) (value : Json) : Except Crash (String × String) := do
  checkAscii name
  let text ← headerText value
  checkAscii text
  pure (name, text)

/-- Letters outside ASCII that have their capitals in it. -/
def plainCapitals : List (Char × String) :=
  [('ß', "SS"), ('ı', "I"), ('ſ', "S"), ('ﬀ', "FF"), ('ﬁ', "FI"), ('ﬂ', "FL"), ('ﬃ', "FFI"),
    ('ﬄ', "FFL"), ('ﬅ', "ST"), ('ﬆ', "ST")]

/-- A method in capitals, as far as they are letters of ASCII. The names of methods hold no others,
so that another method that the service does not know stays one. -/
def methodName (written : String) : String :=
  String.join (written.toList.map fun c =>
    (plainCapitals.lookup c).getD (String.singleton c.toUpper))

/-- Headers with a header in the place of those of the same name. -/
def withHeader (headers : List (String × String)) (name value : String) :
    List (String × String) :=
  headers.filter (fun (key, _) => !sameName key name) ++ [(name, value)]

/-- The body of a request, and the headers that it brings along. -/
def bodyOf (headers : List (String × String)) :
    Content → Except Crash (String × List (String × String))
  | .text s =>
      match Crash.ofText? s with
      | some c => .error c
      | none => .ok (s, headers)
  | .json value => do
      let isNamed := headers.any fun (key, _) => sameName key "content-type"
      pure (← value.payload,
        headers ++ if isNamed then [] else [("content-type", "application/json")])

/-- Checks the name of the host of an address. -/
def checkName (a : Address) : Except Crash Unit := (Label.checkName a.host).mapError (·.crash)

/-- The request that an order comes to. Unless the headers name a host, the address does. An address
that names who asks takes the place of other credentials. -/
def request (o : Order) : Except Crash Request := do
  let address ← ((Address.read o.written).bind (·.atHost host)).mapError (·.crash)
  let given :=
    match o.credentials with
    | some text => Json.setField o.headers "Authorization" (.text text)
    | none => o.headers
  let headers ← given.mapM fun (name, value) => header name value
  let (body, headers) ← bodyOf headers o.content
  if !headers.any fun (name, _) => sameName name "host" then checkName address
  let headers := if address.hasUser then withHeader headers "Authorization" "Basic" else headers
  pure ⟨methodName o.method, address, headers, body⟩

/-- The response to a request as the client takes it. Where it leads elsewhere, both hosts are
looked at. -/
def accept (request : Request) (r : Response) : Except Crash Response :=
  match r.headers.find? fun (name, _) => name == "location" with
  | none => .ok r
  | some (_, written) =>
      match Address.read written with
      | .ok address => do
          checkName address
          checkName request.address
          pure r
      | .error fault =>
          .error ⟨"RemoteProtocolError",
            some ("Invalid URL in location header: " ++ fault.message ++ ".")⟩

end Targeting.Http.Client
