import Targeting.Condition.Reader
import Targeting.Http.Message
import Targeting.Json.Reader
import Targeting.Text.Utf8

/-!
Reads the bodies of requests. Only a body that says it is JSON is looked into.
-/

namespace Targeting.Http

open Text

/-- Why a body cannot be used. -/
inductive BodyFault where
  | invalid (issues : List Issue)
  | unreadable
  deriving DecidableEq, Repr

/-- Whether a content type is that of JSON. -/
def isJsonType (contentType : String) : Bool :=
  let kind := trimChars isBlankChar (contentType.toList.takeWhile (· ≠ ';'))
  match (kind.map Char.toLower).splitOn '/' with
  | [main, sub] =>
      main == "application".toList
        && (sub == "json".toList || "+json".toList.isSuffixOf sub)
  | _ => false

/-- The characters of a body: a mark of the byte order in front of them is dropped, and a body whose
bytes come in groups is read by them. -/
def bodyText? (body : String) : Option String :=
  match body.toList with
  | '\uFEFF' :: rest => some (String.ofList rest)
  | _ =>
      match Grouping.of (bytesOf body) with
      | .single => some body
      | .groups size isReversed => (readGroups? size isReversed (bytesOf body)).map ofPoints

/-- The value of a body: `none` for an empty one, and empty text for one that is not looked
into. -/
def readBody (r : Request) : Except BodyFault (Option Json) :=
  if r.body = "" then .ok none
  else if ((r.header? "content-type").map isJsonType).getD false then
    match bodyText? r.body with
    | none => .error .unreadable
    | some text =>
        match Json.readWith ⟨false⟩ Json.nestingLimit text with
        | .ok value => .ok (some value)
        | .error (.malformed position) =>
            .error (.invalid [⟨["body", Number.digitText position], .malformedJson⟩])
        | .error .oversizedInteger | .error (.tooDeep _) => .error .unreadable
  else .ok (some (.text ""))

/-- Reads the one list of a body. Without a default the list has to be there. -/
def readListBody {α : Type} (name : String) (default : Option (List α)) (read : Json → Reading α)
    (body : Option Json) : Reading (List α) :=
  Reading.within "body" <|
    match body with
    | none => .error [⟨[], .missing⟩]
    | some (.object fields) =>
        match Json.lookup? fields name, default with
        | some (.list items), _ => Reading.within name (Reading.items read 0 items)
        | some _, _ => .error [⟨[name], .notList⟩]
        | none, some default => .ok default
        | none, none => .error [⟨[name], .missing⟩]
    | some _ => .error [⟨[], .notObject⟩]

def readText (value : Json) : Reading String :=
  (Scalar.readText value).mapError fun cause => [⟨[], cause⟩]

/-- The conditions of a request for an estimate. -/
def readConditions (freshId : String) (body : Option Json) : Reading (List Condition) :=
  readListBody "conditions" none (Condition.ofJson freshId) body

/-- The segments of a request for a union; none are none. -/
def readSegmentIds (body : Option Json) : Reading (List String) :=
  readListBody "segment_ids" (some []) readText body

end Targeting.Http
