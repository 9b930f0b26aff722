import Targeting.Http.Key
import Targeting.Json.Writer
import Targeting.Number.Numeral

/-!
Signed tokens. A token has three parts with points between them: how it is signed, what it claims,
and the signature of both. It is accepted when a key of the service signed it in the service's way
and none of its claims forbids it. Whom it is about is its subject.
-/

namespace Targeting.Http

open Number Text

/-- A token taken apart. -/
structure Token where
  header : List (String × Json)
  payload : List Nat
  signed : List Nat
  signature : List Nat

namespace Token

/-- Why a token is not accepted: it is refused, or looking at it goes wrong. -/
inductive Refusal where
  | invalid
  | crash (c : Crash)
  deriving DecidableEq, Repr

/-- The value that bytes spell, if they spell one. -/
def readBytes (bytes : List Nat) : Except Refusal Json :=
  let s := ofUtf8 bytes
  if bytesOf s ≠ bytes then .error .invalid
  else
    (Json.readWith ⟨false⟩ Json.nestingLimit s).mapError fun e =>
      match e with
      | .tooDeep isList =>
          .crash ⟨"RecursionError", some ("maximum recursion depth exceeded while decoding a JSON "
            ++ (if isList then "array" else "object") ++ " from a unicode string")⟩
      | _ => .invalid

def point : Nat := 0x2E

def decoded (text : List Nat) : Except Refusal (List Nat) :=
  (Base64.decode text).mapError fun _ => .invalid

/-- Takes a token apart. The last point separates the signature, the first one the header. -/
def read (token : String) : Except Refusal Token := do
  let text := bytesOf token
  let crypto := (text.reverse.takeWhile (· ≠ point)).reverse
  let signed := text.take (text.length - crypto.length - 1)
  let head := signed.takeWhile (· ≠ point)
  if signed.length ≤ head.length || text.length ≤ crypto.length then throw .invalid
  match ← readBytes (← decoded head) with
  | .object header =>
      pure ⟨header, ← decoded (signed.drop (head.length + 1)), signed, ← decoded crypto⟩
  | _ => throw .invalid

/-- The time of a claim in whole seconds. -/
def seconds : Json → Except Refusal Int
  | .integer n => .ok n
  | .bool b => .ok (if b then 1 else 0)
  | .real (.finite negative m e) =>
      let (num, den) := Binary64.ratio m e
      .ok (if negative then -((num / den : Nat) : Int) else ((num / den : Nat) : Int))
  | .real (.infinite _) =>
      .error (.crash ⟨"OverflowError", some "cannot convert float infinity to integer"⟩)
  | .real .nan => .error .invalid
  | .text s =>
      match convertInteger? s with
      | some n => .ok n
      | none => .error .invalid
  | other =>
      .error (.crash (.kind ("int() argument must be a string, a bytes-like object or a real "
        ++ "number, not '" ++ other.kindName ++ "'")))

/-- Checks a claim if it is there. -/
def check (claims : List (String × Json)) (name : String) (holds : Json → Except Refusal Bool) :
    Except Refusal Unit :=
  match Json.lookup? claims name with
  | none => .ok ()
  | some value => do
      if ← holds value then pure () else .error .invalid

def isText : Json → Except Refusal Bool
  | .text _ => .ok true
  | _ => .ok false

/-- Nothing that the claim could say would be right. -/
def never (_ : Json) : Except Refusal Bool := .ok false

/-- The subject of claims at a time in seconds. Claims may not be limited to an audience, nor be
bound to another token. -/
def subjectOf (claims : List (String × Json)) (now : Except Crash Int) :
    Except Refusal Json := do
  let compared (value : Json) (holds : Int → Int → Bool) : Except Refusal Bool := do
    let seconds ← seconds value
    pure (holds seconds (← now.mapError .crash))
  check claims "iat" fun value => (seconds value).map fun _ => true
  check claims "nbf" fun value => compared value fun seconds now => seconds ≤ now
  check claims "exp" fun value => compared value fun seconds now => now ≤ seconds
  check claims "aud" never
  check claims "sub" isText
  check claims "jti" isText
  check claims "at_hash" never
  pure ((Json.lookup? claims "sub").getD .null)

/-- Checks that the token names the service's procedure, and that a key of the secret signed it by
that procedure. -/
def verify (t : Token) (secret algorithm : Json) : Except Refusal Unit := do
  let name := (Json.lookup? t.header "alg").getD .null
  if name.isNothing || !name.same algorithm then throw .invalid
  let keys ← (Key.ofSecret secret).mapError .crash
  if !(← (Key.anySigns name t.signed t.signature keys).mapError .crash) then throw .invalid

/-- The subject of a written token at a time in seconds. -/
def subject (token : String) (secret algorithm : Json) (now : Except Crash Int) :
    Except Refusal Json := do
  let t ← read token
  t.verify secret algorithm
  match ← readBytes t.payload with
  | .object claims => subjectOf claims now
  | _ => throw .invalid

/-- The part of a token that holds a value. -/
def part (value : Json) : List Char :=
  Base64.encode (bytesOf value.write)

/-- Writes a token with given claims, signed with a key. -/
def sign (key algorithm claims : Json) : Except Crash String := do
  let fault (message : String) : Crash := ⟨"JWSError", some message⟩
  match claims, algorithm with
  | .object _, .list _ | .object _, .object _ =>
      throw (.kind ("unhashable type: '" ++ algorithm.kindName ++ "'"))
  | .object _, _ =>
      let name := algorithm.label
      match if algorithm.isText then Key.Procedure.ofName? Key.Procedure.signing name else none with
      | none => throw (fault ("Algorithm " ++ name ++ " not supported."))
      | some p =>
          let header := Json.object [("alg", .text name), ("typ", .text "JWT")]
          let signed := part header ++ '.' :: part claims
          let message := bytesOf (String.ofList signed)
          let signature ← ((Key.prepare name p key).bind (·.sign message)).mapError fun c =>
            fault c.message
          pure (String.ofList (signed ++ '.' :: Base64.encode signature))
  | _, _ => throw (.lacking claims "get")

end Token

end Targeting.Http
