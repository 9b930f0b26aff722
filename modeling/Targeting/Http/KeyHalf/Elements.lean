import Targeting.Crypto.Der
import Targeting.Http.KeyHalf

/-!
Halves of pairs of keys as nested elements: on their own, behind the name of their kind, and in a
certificate.
-/

namespace Targeting.Http.KeyHalf

open Crypto Der

def rsaName : List Nat := [0x2A, 0x86, 0x48, 0x86, 0xF7, 0x0D, 0x01, 0x01, 0x01]

def curveName : List Nat := [0x2A, 0x86, 0x48, 0xCE, 0x3D, 0x02, 0x01]

def curvesByName : List (List Nat × Curve) :=
  [([0x2A, 0x86, 0x48, 0xCE, 0x3D, 0x03, 0x01, 0x07], .p256),
    ([0x2B, 0x81, 0x04, 0x00, 0x22], .p384), ([0x2B, 0x81, 0x04, 0x00, 0x23], .p521)]

/-- The curve that is named next. -/
def namedCurve : Reader Curve := do
  match curvesByName.lookup (← Der.name) with
  | some c => pure c
  | none => throw .unknownKind

/-- The numbers of the half that checks. -/
def rsaPublic : Reader KeyHalf := do
  let n ← Der.number
  let e ← Der.number
  pure (.rsa ⟨n, e, none⟩)

/-- The numbers of the half that signs: a version, the modulus, the exponents, and the numbers that
speed up signing. -/
def rsaSecret : Reader KeyHalf := do
  let _ ← Der.number
  let n ← Der.number
  let e ← Der.number
  let d ← Der.number
  for _ in List.range 5 do
    let _ ← Der.number
  pure (.rsa ⟨n, e, some d⟩)

/-- A point of a curve by its two numbers. -/
def curvePublic (c : Curve) (bytes : List Nat) : Reader KeyHalf := do
  let size := (c.bits + 7) / 8
  let x := Sha2.ofBytes ((bytes.drop 1).take size)
  let y := Sha2.ofBytes (bytes.drop (1 + size))
  if bytes.length ≠ 1 + 2 * size ∨ bytes.head? ≠ some 4 ∨ !c.holds x y then throw .value
  pure (.curve ⟨c, (x, y), none⟩)

/-- The factor of the half that signs; a curve that is named here need not be named around. -/
def curveSecret (around : Option Curve) : Reader KeyHalf := do
  let _ ← Der.number
  let d := Sha2.ofBytes (← Der.bytes)
  let named ← if ← Der.isNext 0xA0 then some <$> Der.inside 0xA0 namedCurve else pure none
  Der.skip
  match named.or around with
  | none => throw .value
  | some c =>
      match c.times d (some c.base) with
      | some point => pure (.curve ⟨c, point, some d⟩)
      | none => throw .value

/-- What kind of key follows, and on which curve. -/
def kind : Reader (Option Curve) := do
  let name ← Der.name
  if name = rsaName then
    Der.skip
    pure none
  else if name = curveName then some <$> namedCurve
  else throw .unknownKind

/-- A half that checks, with its kind in front. -/
def namedPublic : Reader KeyHalf := do
  let around ← Der.list kind
  let bytes ← Der.bits
  match around with
  | none => (Der.whole (Der.list rsaPublic) bytes : Except Der.Fault KeyHalf)
  | some c => curvePublic c bytes

/-- A half that signs, with its kind in front. -/
def namedSecret : Reader KeyHalf := do
  let _ ← Der.number
  let around ← Der.list kind
  let bytes ← Der.bytes
  Der.skip
  match around with
  | none => (Der.whole (Der.list rsaSecret) bytes : Except Der.Fault KeyHalf)
  | some c => (Der.whole (Der.list (curveSecret (some c))) bytes : Except Der.Fault KeyHalf)

/-- The key of a certificate, which stands behind a version, a number, a name of a procedure, an
issuer, a time and a subject. -/
def certified : Reader KeyHalf := do
  let key ← Der.list do
    if ← Der.isNext 0xA0 then
      let _ ← Der.element
    let _ ← Der.number
    for _ in List.range 4 do
      let _ ← Der.element
    let key ← Der.list namedPublic
    Der.skip
    pure key
  Der.skip
  pure key

end Targeting.Http.KeyHalf
