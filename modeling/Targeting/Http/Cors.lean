import Targeting.Http.Message
import Targeting.Settings

/-!
Requests that a browser makes for a page of another origin. The dashboard's origin is allowed,
and outside production so are the two that developers use.
-/

namespace Targeting.Http

def developmentOrigins : List String := ["http://localhost:3000", "http://localhost:5173"]

/-- The allowed origins under the settings with which the service starts. -/
def allowedOrigins (s : Settings) : List String :=
  s.frontendUrl :: if s.isProduction then [] else developmentOrigins

/-- Methods that a browser may announce. -/
def announcedMethods : List String :=
  ["DELETE", "GET", "HEAD", "OPTIONS", "PATCH", "POST", "PUT", "QUERY"]

def credentialsHeader : String × String := ("access-control-allow-credentials", "true")

/-- Headers that tell a browser whether its page may see the response. -/
def originHeaders (origins : List String) (origin : String) : List (String × String) :=
  credentialsHeader
    :: if origins.contains origin then [("access-control-allow-origin", origin)] else []

/-- What a browser announces: the origin of its page, the method of the request to come, and
whether that request goes to a private network. -/
structure Announcement where
  origin : String
  method : String
  isPrivate : Bool
  deriving DecidableEq, Repr

/-- What is wrong with an announcement. Nothing may come from outside a private network. -/
def Announcement.refused (a : Announcement) (origins : List String) : List String :=
  (if origins.contains a.origin then [] else ["origin"])
    ++ (if announcedMethods.contains a.method then [] else ["method"])
    ++ (if a.isPrivate then ["private-network"] else [])

/-- The answer to a browser that announces a request. -/
def Announcement.answer (a : Announcement) (origins : List String) :
    Nat × List (String × String) × String :=
  let refused := a.refused origins
  let headers := ("content-type", "text/plain; charset=utf-8") :: originHeaders origins a.origin
  if refused.isEmpty then (200, headers, "OK")
  else (400, headers, "Disallowed CORS " ++ ", ".intercalate refused)

/-- What a request announces, if it does. -/
def announcement? (r : Request) : Option Announcement :=
  match r.header? "origin", r.header? "access-control-request-method" with
  | some origin, some method =>
      if r.method = "OPTIONS" then
        some ⟨origin, method, (r.header? "access-control-request-private-network").isSome⟩
      else none
  | _, _ => none

end Targeting.Http
