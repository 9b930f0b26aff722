/-!
The routes of the service: for each a method, a pattern of path parts and the endpoint behind it.
The first route that fits a request answers it. The pages about the interface itself, under
`/openapi.json`, `/docs`, `/docs/oauth2-redirect` and `/redoc`, are left out.
-/

namespace Targeting.Http

inductive Endpoint where
  | root
  | health
  | estimate
  | statistics
  | categories
  | recalculate
  | segmentAudience (segmentId : String)
  | resolve
  | campaignAudience (campaignId : String)
  | campaignReach (campaignId : String)
  deriving DecidableEq, Repr

/-- A path pattern with the endpoint behind it: given parts, or given parts around a free one. -/
inductive Pattern where
  | fixed (parts : List String) (endpoint : Endpoint)
  | free (before after : List String) (endpoint : String → Endpoint)

/-- The endpoint of a path given by its parts. The free part may not be empty. -/
def Pattern.endpoint? (parts : List String) : Pattern → Option Endpoint
  | .fixed fixedParts endpoint => if parts = fixedParts then some endpoint else none
  | .free before after endpoint =>
      match parts.drop before.length with
      | part :: rest =>
          if parts.take before.length = before ∧ part ≠ "" ∧ rest = after then
            some (endpoint part)
          else none
      | [] => none

structure Route where
  method : String
  pattern : Pattern

/-- The routes in the order in which they are tried. -/
def Route.all : List Route :=
  [⟨"POST", .fixed ["api", "v2", "segments", "estimate"] .estimate⟩,
    ⟨"GET", .fixed ["api", "v2", "segments", "estimate"] .statistics⟩,
    ⟨"GET", .fixed ["api", "v2", "segments", "categories"] .categories⟩,
    ⟨"POST", .fixed ["api", "v2", "segments", "recalculate"] .recalculate⟩,
    ⟨"GET", .free ["api", "v2", "segments"] ["audience"] .segmentAudience⟩,
    ⟨"POST", .fixed ["api", "v2", "audience", "resolve"] .resolve⟩,
    ⟨"GET", .free ["api", "v2", "campaigns"] ["audience"] .campaignAudience⟩,
    ⟨"GET", .free ["api", "v2", "campaigns"] ["reach"] .campaignReach⟩,
    ⟨"GET", .fixed [""] .root⟩,
    ⟨"GET", .fixed ["health"] .health⟩]

/-- The parts of a path behind its first slash. One line break at the end does not count. -/
def pathParts (path : String) : List String :=
  let cs := path.toList
  match if cs.getLast? = some '\n' then cs.dropLast else cs with
  | '/' :: rest => (rest.splitOn '/').map String.ofList
  | _ => []

/-- Where a request leads. -/
inductive Destination where
  | found (endpoint : Endpoint)
  | wrongMethod (allowed : String)
  | elsewhere (path : String)
  | nowhere
  deriving DecidableEq, Repr

/-- The endpoint of the first route that fits; a path that fits under another method, or in its
other spelling, is told apart from a path that leads nowhere. -/
def destination (method path otherPath : String) : Destination :=
  let fitting := Route.all.filterMap fun r =>
    (r.pattern.endpoint? (pathParts path)).map fun e => (r, e)
  match fitting.find? fun (r, _) => r.method == method with
  | some (_, e) => .found e
  | none =>
      match fitting with
      | (r, _) :: _ => .wrongMethod r.method
      | [] =>
          let leads := Route.all.any fun r => (r.pattern.endpoint? (pathParts otherPath)).isSome
          if path ≠ "/" && leads then .elsewhere otherPath else .nowhere

end Targeting.Http
