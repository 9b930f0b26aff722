import Targeting.Http.KeyHalf
import Targeting.Text.Base64
import Targeting.Text.Utf8

/-!
Halves of pairs of keys as objects, whose members spell the numbers of a key.
-/

namespace Targeting.Http.KeyHalf

open Text Crypto

/-- A byte given as a number. -/
def byteOf : Json → Except Crash Nat
  | .integer n =>
      if 0 ≤ n ∧ n < 256 then .ok n.toNat else .error (.value "bytes must be in range(0, 256)")
  | .bool b => .ok (if b then 1 else 0)
  | other =>
      .error (.kind ("'" ++ other.kindName ++ "' object cannot be interpreted as an integer"))

/-- The bytes of a member: those of a text in ASCII, so many zeros, or one byte after the other. -/
def memberBytes : Json → Except Crash (List Nat)
  | .text s =>
      match asciiComplaint? s with
      | some complaint => .error ⟨"UnicodeEncodeError", some complaint⟩
      | none => .ok (bytesOf s)
  | .bool b => .ok (List.replicate (if b then 1 else 0) 0)
  | .integer n => if n < 0 then .error (.value "negative count") else .ok []
  | .list items => items.mapM byteOf
  | .object fields => fields.mapM fun (name, _) => byteOf (.text name)
  | other => .error (.kind ("cannot convert '" ++ other.kindName ++ "' object to bytes"))

/-- The number that a member spells. Zeros are no characters of the alphabet and spell nothing. -/
def numberOf (value : Json) : Except Crash Nat := do
  let text ← memberBytes value
  let group : Base64.Group := ⟨0, 0, 0⟩
  let padding := [Base64.paddingByte, Base64.paddingByte]
  let bytes ← (Base64.decodeFrom group 0 (text ++ padding)).mapError fun fault =>
    ⟨"Error", some fault.message⟩
  if bytes.isEmpty then throw (.value "invalid literal for int() with base 16: ''")
  pure (Sha2.ofBytes bytes)

def member (fields : List (String × Json)) (name : String) : Json :=
  (Json.lookup? fields name).getD .null

def number (fields : List (String × Json)) (name : String) : Except Crash Nat :=
  numberOf (member fields name)

/-- Refuses with the words of the first condition that fails. -/
def require (conditions : List (Bool × String)) : Except Crash Unit :=
  match conditions.find? fun (holds, _) => !holds with
  | some (_, message) => .error (.value message)
  | none => .ok ()

/-- What the two exponents of a pair do to a number, one after the other. -/
def undoes (modulus exponent secret : Nat) : Bool :=
  powMod modulus 17 (exponent * secret) == 17

/-- The numbers that speed up signing. They are given all together or not at all. -/
def speedNames : List String := ["p", "q", "dp", "dq", "qi"]

/-- Checks a secret exponent and the numbers that speed up signing. -/
def checkParts (fields : List (String × Json)) (n e d : Nat) : Except Crash Unit := do
  let has (name : String) : Bool := (Json.lookup? fields name).isSome
  if speedNames.any has then
    if !speedNames.all has then
      throw (unusableKey "Precomputed private key parameters are incomplete.")
    let p ← number fields "p"
    let q ← number fields "q"
    let dp ← number fields "dp"
    let dq ← number fields "dq"
    let qi ← number fields "qi"
    require [(3 ≤ n, "modulus must be >= 3."), (p < n, "p must be < modulus."),
      (q < n, "q must be < modulus."), (dp < n, "dmp1 must be < modulus."),
      (dq < n, "dmq1 must be < modulus."), (qi < n, "iqmp must be < modulus."),
      (d < n, "private_exponent must be < modulus."),
      (3 ≤ e && e < n, "public_exponent must be >= 3 and < modulus."),
      (e % 2 == 1, "public_exponent must be odd."), (dp % 2 == 1, "dmp1 must be odd."),
      (dq % 2 == 1, "dmq1 must be odd."), (p * q == n, "p*q must equal modulus."),
      (undoes n e d, "Invalid private key")]
  else
    require [(2 ≤ d && 2 ≤ e, "d, e can't be <= 1"), (n != 0, "pow() 3rd argument cannot be 0"),
      (undoes n e d, "n, d, e don't match")]

/-- A key made of two primes, by the numbers of an object. -/
def rsaOfFields (fields : List (String × Json)) : Except Crash KeyHalf := do
  let e ← numberOf ((Json.lookup? fields "e").getD (.integer 256))
  let n ← number fields "n"
  match Json.lookup? fields "d" with
  | none =>
      require [(3 ≤ n, "n must be >= 3."), (3 ≤ e && e < n, "e must be >= 3 and < n."),
        (e % 2 == 1, "e must be odd.")]
      pure (.rsa ⟨n, e, none⟩)
  | some value => do
      let d ← numberOf value
      checkParts fields n e d
      pure (.rsa ⟨n, e, some d⟩)

def curves : List (String × Curve) :=
  [("P-256", .p256), ("P-384", .p384), ("P-521", .p521)]

/-- The curve that a value names. -/
def curveOf (name : Json) : Except Crash Curve :=
  let unknown : Crash := ⟨"KeyError", some name.innerLabel⟩
  match name with
  | .text s => ((curves.lookup s).map .ok).getD (.error unknown)
  | .list _ | .object _ => .error (.kind ("unhashable type: '" ++ name.kindName ++ "'"))
  | _ => .error unknown

/-- A key made of a point, by the numbers of an object. -/
def curveOfFields (fields : List (String × Json)) : Except Crash KeyHalf := do
  if ["x", "y", "crv"].any fun name => (Json.lookup? fields name).isNone then
    throw (unusableKey "Mandatory parameters are missing")
  let x ← number fields "x"
  let y ← number fields "y"
  let c ← curveOf (member fields "crv")
  let secret ← (Json.lookup? fields "d").mapM numberOf
  require [(c.holds x y, "Invalid EC key. Point is not on the curve specified."),
    (secret.all fun d => c.times d (some c.base) == some (x, y), "Invalid EC key.")]
  pure (.curve ⟨c, (x, y), secret⟩)

end Targeting.Http.KeyHalf
