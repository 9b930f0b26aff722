import Targeting.Http.KeyHalf.Elements
import Targeting.Http.KeyHalf.Members
import Targeting.Json.Sameness
import Targeting.Text.Armour

/-!
Reads halves of pairs of keys: objects by their members, and text by the blocks in its armour.
-/

namespace Targeting.Http.KeyHalf

open Text Crypto

/-- The half that checks in a block. -/
def publicOf (b : Armour.Block) : Option KeyHalf :=
  let named := (Der.whole (Der.list namedPublic) b.content).toOption
  match b.label with
  | "RSA PUBLIC KEY" => ((Der.whole (Der.list rsaPublic) b.content).toOption).or named
  | "PUBLIC KEY" => named
  | _ => none

/-- What is said of text whose armour is not whole. -/
def unreadable (fault : Armour.Fault) : Crash :=
  unusableKey ("Unable to load PEM file. See " ++ "https:"
    ++ "//cryptography.io/en/latest/faq/#why-can-t-i-import-my-pem-file"
    ++ " for more details. " ++ fault.message)

def unserialized (fault : Der.Fault) : Crash :=
  unusableKey ("Could not deserialize key data. The data may be in an incorrect format, it may be "
    ++ "encrypted with an unsupported algorithm, or it may be an unsupported key type (e.g. EC "
    ++ "curves with explicit parameters). Details: ASN.1 parsing error: " ++ fault.message)

/-- The labels of blocks that hold a half that signs. -/
def secretLabels : List String :=
  ["PRIVATE KEY", "ENCRYPTED PRIVATE KEY", "RSA PRIVATE KEY", "EC PRIVATE KEY", "DSA PRIVATE KEY"]

/-- The half that signs in the first block that holds one. -/
def secretOf (blocks : List Armour.Block) : Except Crash KeyHalf :=
  match blocks.find? fun b => secretLabels.contains b.label with
  | none =>
      .error (unusableKey ("Valid PEM but no BEGIN/END delimiters for a private key found. "
        ++ "Are you sure this is a private key?"))
  | some b =>
      let read (r : Der.Reader KeyHalf) : Except Crash KeyHalf :=
        (Der.whole (Der.list r) b.content).mapError unserialized
      match b.label with
      | "PRIVATE KEY" => read namedSecret
      | "RSA PRIVATE KEY" => read rsaSecret
      | "EC PRIVATE KEY" => read (curveSecret none)
      | "ENCRYPTED PRIVATE KEY" =>
          .error (unusableKey "Password was not given but private key is encrypted")
      | _ => read (throw .unknownKind)

def certificateLabels : List String := ["CERTIFICATE", "X509 CERTIFICATE"]

/-- The half in the first certificate. -/
def certificateOf (blocks : List Armour.Block) : Except Crash KeyHalf :=
  match blocks.find? fun b => certificateLabels.contains b.label with
  | none =>
      .error (unusableKey ("Valid PEM but no BEGIN CERTIFICATE/END CERTIFICATE delimiters. "
        ++ "Are you sure this is a certificate?"))
  | some b =>
      (Der.whole (Der.list certified) b.content).mapError fun fault =>
        unusableKey ("error parsing asn1 value: " ++ fault.message)

/-- The half in armour. It is taken for one that checks first, and then for one that signs; where it
may be in a certificate, that is told by the first line. -/
def ofArmour (kind : PairKind) (s : String) : Except Crash KeyHalf :=
  if kind = .rsa && "-----BEGIN CERTIFICATE-----".toList.isPrefixOf s.toList then
    ((Armour.all s).mapError unreadable).bind certificateOf
  else
    match ((Armour.first s).toOption).bind publicOf with
    | some half => .ok half
    | none => ((Armour.all s).mapError unreadable).bind secretOf

/-- Half of a pair of a kind. -/
def ofKey (kind : PairKind) : Json → Except Crash KeyHalf
  | .object fields => do
      let given := member fields "kty"
      if !given.same (.text kind.name) then throw (wrongKeyKind kind.name given)
      match kind with
      | .rsa => rsaOfFields fields
      | .curve => curveOfFields fields
  | .text s =>
      match Crash.ofText? s with
      | some c => .error c
      | none => ofArmour kind s
  | key => .error (unusableKey ("Unable to parse " ++ kind.owner ++ " from key: " ++ key.label))

end Targeting.Http.KeyHalf
