import Targeting.Crash
import Targeting.Crypto.Curve
import Targeting.Crypto.Rsa

/-!
Keys that come in pairs: one half signs, the other one only checks. A half of one kind may be given
where one of the other kind is asked for, and is no use then.
-/

namespace Targeting.Http

open Crypto

inductive KeyHalf where
  | rsa (key : Rsa.Key)
  | curve (key : Curve.Key)
  deriving DecidableEq, Repr

/-- What a pair of keys is made of. -/
inductive PairKind where
  | rsa
  | curve
  deriving DecidableEq, Repr

namespace PairKind

/-- The kind as an object names it. -/
def name : PairKind → String
  | rsa => "RSA"
  | curve => "EC"

/-- The kind as it is called where a value is none. -/
def owner : PairKind → String
  | rsa => "an RSA_JWK"
  | curve => "an ECKey"

end PairKind

/-- A key that cannot be used. -/
def unusableKey (message : String) : Crash := ⟨"JWKError", some message⟩

/-- A key of another kind than the one that is asked for. -/
def wrongKeyKind (expected : String) (kind : Json) : Crash :=
  unusableKey ("Incorrect key type. Expected: '" ++ expected ++ "', Received: " ++ kind.label)

namespace KeyHalf

/-- What keys of a half are called, for developers. -/
def className (half : KeyHalf) : String :=
  match half with
  | .rsa key => if key.secret.isSome then "RSAPrivateKey" else "RSAPublicKey"
  | .curve key => if key.secret.isSome then "ECPrivateKey" else "ECPublicKey"

def fullName (half : KeyHalf) : String :=
  "cryptography.hazmat.bindings._rust.openssl."
    ++ (match half with | .rsa _ => "rsa." | .curve _ => "ec.") ++ half.className

/-- The error of a half that lacks something. -/
def lacking (half : KeyHalf) (name : String) : Crash :=
  ⟨"AttributeError", some ("'" ++ half.fullName ++ "' object has no attribute '" ++ name ++ "'")⟩

/-- Signs a message as a half of a kind would. -/
def sign (kind : PairKind) (h : Option Sha2) (half : KeyHalf) (message : List Nat) :
    Except Crash (List Nat) := do
  let noHash : Crash := .kind "'NoneType' object is not callable"
  match kind, half, h with
  | .rsa, .rsa key, h =>
      if key.secret.isNone then throw (half.lacking "sign")
      match h with
      | none => throw noHash
      | some h =>
          match key.sign? h message with
          | some signature => pure signature
          | none => throw (Crash.value "Digest too large for key size. Use a larger key.")
  | .rsa, .curve key, h =>
      if key.secret.isNone then throw (half.lacking "sign")
      if h.isNone then throw noHash
      throw (.kind "ECPrivateKey.sign() takes 2 positional arguments but 3 were given")
  | .curve, .rsa _, _ => throw (half.lacking "curve")
  | .curve, .curve _, none => throw (.lacking .null "digest_size")
  | .curve, .curve key, some h =>
      if key.curve.bits < 8 * h.hashBytes then
        throw (.kind ("this curve (" ++ key.curve.name ++ ") is too short for your digest ("
          ++ toString (8 * h.hashBytes) ++ ")"))
      match key.sign? h message with
      | some signature => pure signature
      | none => throw (half.lacking "sign")

/-- Whether a half of a kind accepts a signature. On a curve only the half that checks does. -/
def verifies (kind : PairKind) (h : Option Sha2) (half : KeyHalf)
    (message signature : List Nat) : Bool :=
  match kind, half, h with
  | .rsa, .rsa key, some h => key.verifies h message signature
  | .curve, .curve key, some h =>
      key.secret.isNone && 8 * h.hashBytes ≤ key.curve.bits && key.verifies h message signature
  | _, _, _ => false

end KeyHalf

end Targeting.Http
