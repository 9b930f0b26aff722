import Targeting.Crypto.Hmac
import Targeting.Http.KeyHalf.Reader
import Targeting.Json.Reader
import Targeting.Text.Pattern

/-!
Keys of signatures. A secret is a key itself, or the written form of one key or of several, in
which numerals count as text. Procedures sign with a secret or with one half of a pair of keys; for
others a key is only looked at, and nothing is ever signed by them.
-/

namespace Targeting.Http.Key

open Text

/-- What a procedure does with a key: it signs with a secret, with one half of a pair of keys and a
hash, or it is for other purposes and signs nothing, be it with a block of so many bits or with any
bytes. -/
inductive Procedure where
  | secret (h : Crypto.Sha2)
  | pair (kind : PairKind) (h : Option Crypto.Sha2)
  | block (bits : Nat)
  | bytes

namespace Procedure

def factors (h : Option Crypto.Sha2) : Procedure := .pair .rsa h

def curve (h : Option Crypto.Sha2) : Procedure := .pair .curve h

/-- Procedures by the names under which a token may be signed. -/
def signing : List (String × Procedure) :=
  [("HS256", .secret .sha256), ("HS384", .secret .sha384), ("HS512", .secret .sha512),
    ("RS256", factors (some .sha256)), ("RS384", factors (some .sha384)),
    ("RS512", factors (some .sha512)), ("ES256", curve (some .sha256)),
    ("ES384", curve (some .sha384)), ("ES512", curve (some .sha512)), ("dir", .bytes),
    ("A128CBC-HS256", .block 256), ("A192CBC-HS384", .block 384), ("A256CBC-HS512", .block 512),
    ("A128GCM", .block 128), ("A192GCM", .block 192), ("A256GCM", .block 256),
    ("RSA1_5", factors none), ("RSA-OAEP", factors none), ("RSA-OAEP-256", factors none),
    ("A128KW", .block 128), ("A192KW", .block 192), ("A256KW", .block 256)]

/-- Procedures for which there are keys although nothing is signed by them. -/
def silent : List (String × Procedure) :=
  [("A128CBC", .block 128), ("A192CBC", .block 192), ("A256CBC", .block 256),
    ("ECDH-ES", curve none), ("ECDH-ES+A128KW", curve none), ("ECDH-ES+A192KW", curve none),
    ("ECDH-ES+A256KW", curve none)]

def ofName? (known : List (String × Procedure)) (name : String) : Option Procedure :=
  (known.find? (·.1 == name)).map Prod.snd

end Procedure

/-- What follows a given start. -/
def behind? (start : String) (cs : List Char) : Option (List Char) :=
  if start.toList.isPrefixOf cs then some (cs.drop start.length) else none

/-- What an armoured key is called in its first line. -/
def armourLabels : List String :=
  ["CERTIFICATE", "TRUSTED CERTIFICATE", "PRIVATE KEY", "PUBLIC KEY", "ENCRYPTED PRIVATE KEY",
    "OPENSSH PRIVATE KEY", "DSA PRIVATE KEY", "RSA PRIVATE KEY", "RSA PUBLIC KEY",
    "EC PRIVATE KEY", "DH PARAMETERS", "NEW CERTIFICATE REQUEST", "CERTIFICATE REQUEST",
    "SSH2 PUBLIC KEY", "SSH2 ENCRYPTED PRIVATE KEY", "X509 CRL"]

/-- A text that starts with the first line of the armour of a key. -/
def startsArmour (cs : List Char) : Bool :=
  let isMark : List Char → Bool
    | '-' :: _ | ' ' :: _ => true
    | _ => false
  armourLabels.any fun label =>
    match behind? "----" cs with
    | some rest =>
        isMark rest && match (behind? "BEGIN " (rest.drop 1)).bind (behind? label) with
          | some rest => isMark rest && "----".toList.isPrefixOf (rest.drop 1)
          | none => false
    | none => false

/-- A text that holds an armoured key, or at least the start of one. -/
def isArmoured (cs : List Char) : Bool := (suffixes cs).any startsArmour

def holds (part : String) (cs : List Char) : Bool :=
  (suffixes cs).any part.toList.isPrefixOf

def shellKinds : List String :=
  ["ssh-ed25519", "ssh-rsa", "ssh-dss", "ecdsa-sha2-nistp256", "ecdsa-sha2-nistp384",
    "ecdsa-sha2-nistp521"]

/-- A public key of a secure shell: it names a kind of such keys, or its first word does. -/
def isShellKey (cs : List Char) : Bool :=
  let isGap (c : Char) : Bool := c == ' ' || (9 ≤ c.toNat && c.toNat ≤ 13)
  let word := cs.takeWhile (!isGap ·)
  let rest := cs.drop word.length
  let more := rest.dropWhile fun c => c == ' ' || c == '\t'
  shellKinds.any (holds · cs)
    || ("-cert-v01@openssh.com".toList.isSuffixOf word && more.length < rest.length
      && more.head?.any (!isGap ·))

def textBytes (s : String) : Except Crash (List Nat) :=
  match Crash.ofText? s with
  | some c => .error c
  | none => .ok (bytesOf s)

/-- The bytes of a secret that is given as an object. -/
def ofFields (fields : List (String × Json)) : Except Crash (List Nat) :=
  let kind := (Json.lookup? fields "kty").getD .null
  match kind with
  | .text "oct" =>
      match (Json.lookup? fields "k").getD .null with
      | .text s => do
          let bytes ← textBytes s
          (Base64.decode bytes).mapError fun fault => ⟨"Error", some fault.message⟩
      | other => .error (.lacking other "encode")
  | _ => .error (wrongKeyKind "oct" kind)

/-- The bytes of a secret. -/
def secretBytes : Json → Except Crash (List Nat)
  | .object fields => ofFields fields
  | .text s => do
      let bytes ← textBytes s
      if isArmoured s.toList || isShellKey s.toList then
        throw (unusableKey ("The specified key is an asymmetric key or x509 certificate and"
          ++ " should not be used as an HMAC secret."))
      pure bytes
  | _ => .error (unusableKey "Expecting a string- or bytes-formatted key.")

/-- Checks a key that is used as it is: only text has bytes. -/
def checkBytes : Json → Except Crash Unit
  | .text s => (textBytes s).map fun _ => ()
  | key => .error (.kind ("not expecting type '<class '" ++ key.kindName ++ "'>'"))

/-- How long a key is. -/
def size : Json → Except Crash Nat
  | .text s => .ok (pointCount s)
  | .list items => .ok items.length
  | .object fields => .ok fields.length
  | key => .error (.kind ("object of type '" ++ key.kindName ++ "' has no len()"))

/-- A key made ready for a procedure. -/
inductive Ready where
  | secret (h : Crypto.Sha2) (bytes : List Nat)
  | half (kind : PairKind) (h : Option Crypto.Sha2) (key : KeyHalf)
  | silent

namespace Ready

def sign (r : Ready) (message : List Nat) : Except Crash (List Nat) :=
  match r with
  | .secret h bytes => .ok (h.keyed bytes message)
  | .half kind h key => key.sign kind h message
  | .silent => .error ⟨"NotImplementedError", some ""⟩

def verifies (r : Ready) (message signature : List Nat) : Bool :=
  match r with
  | .secret h bytes => h.keyed bytes message == signature
  | .half kind h key => key.verifies kind h message signature
  | .silent => false

end Ready

/-- Makes a key ready for a procedure of a given name. -/
def prepare (name : String) (p : Procedure) (key : Json) : Except Crash Ready :=
  match p with
  | .secret h => (secretBytes key).map (.secret h)
  | .pair kind h => (KeyHalf.ofKey kind key).map (.half kind h)
  | .bytes => (checkBytes key).map fun _ => .silent
  | .block bits => do
      if (← size key) * 8 ≠ bits then
        throw (unusableKey ("Key must be " ++ Number.digitText bits ++ " bit for alg " ++ name))
      checkBytes key
      pure .silent

/-- The members of a collection. -/
def members : Json → Except Crash (List Json)
  | .list items => .ok items
  | .text s => .ok ((points s).map fun n => .text (ofPoints [n]))
  | .object fields => .ok (fields.map fun (name, _) => .text name)
  | other => .error (.kind ("'" ++ other.kindName ++ "' object is not iterable"))

/-- The keys that a secret stands for: a set of keys under its name, a single key with a kind, or
else all values of an object; the items of a list; or the secret itself. -/
def ofSecret (secret : Json) : Except Crash (List Json) :=
  let read : Json :=
    match secret with
    | .text s => (Json.readWith ⟨true⟩ Json.nestingLimit s).toOption.getD secret
    | other => other
  match read with
  | .object fields =>
      match Json.lookup? fields "keys", Json.lookup? fields "kty" with
      | some keys, _ => members keys
      | none, some _ => .ok [read]
      | none, none => .ok (if fields.isEmpty then [read] else fields.map Prod.snd)
  | .list items => .ok items
  | other => .ok [other]

/-- What a name of a procedure stands for. A name is text; what may change is no name at all. -/
def procedure (name : Json) : Except Crash (String × Procedure) :=
  let unknown := unusableKey "Unable to find an algorithm for key"
  match name with
  | .text s =>
      match Procedure.ofName? (Procedure.signing ++ Procedure.silent) s with
      | some p => .ok (s, p)
      | none => .error unknown
  | .list _ | .object _ => .error (.kind ("unhashable type: '" ++ name.kindName ++ "'"))
  | _ => .error unknown

/-- Whether one of the keys signs a message by a procedure of a given name. A key that cannot be
made ready ends the search. -/
def anySigns (name : Json) (message signature : List Nat) : List Json → Except Crash Bool
  | [] => .ok false
  | key :: rest => do
      let (name', p) ← procedure name
      if (← prepare name' p key).verifies message signature then pure true
      else anySigns name message signature rest

end Targeting.Http.Key
