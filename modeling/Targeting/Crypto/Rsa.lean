import Targeting.Crypto.Modular
import Targeting.Crypto.Sha2

/-!
Signatures by powers modulo a product of two primes. What is signed is the hash of a message behind
a mark of the hash and a filling, as long as the modulus.
-/

namespace Targeting.Crypto

/-- The bytes in front of a hash that tell which one it is and how long. -/
def Sha2.marked (h : Sha2) (message : List Nat) : List Nat :=
  [0x30, 0x11 + h.hashBytes, 0x30, 0x0D, 0x06, 0x09, 0x60, 0x86, 0x48, 0x01, 0x65, 0x03, 0x04, 0x02,
    h.hashBytes / 16 - 1, 0x05, 0x00, 0x04, h.hashBytes] ++ h.hash message

namespace Rsa

structure Key where
  modulus : Nat
  exponent : Nat
  /-- The exponent of the half that signs, if the key is that half. -/
  secret : Option Nat
  deriving DecidableEq, Repr

/-- How many bytes the modulus has. -/
def Key.size (k : Key) : Nat := Nat.log2 k.modulus / 8 + 1

/-- What is signed of a message in so many bytes, if there is room for it. -/
def block? (h : Sha2) (size : Nat) (message : List Nat) : Option (List Nat) :=
  let tail := h.marked message
  if size < tail.length + 11 then none
  else some (0 :: 1 :: List.replicate (size - tail.length - 3) 0xFF ++ 0 :: tail)

def Key.sign? (k : Key) (h : Sha2) (message : List Nat) : Option (List Nat) := do
  let d ← k.secret
  let block ← block? h k.size message
  pure (Sha2.bytesOf k.size (powMod k.modulus (Sha2.ofBytes block) d))

def Key.verifies (k : Key) (h : Sha2) (message signature : List Nat) : Bool :=
  let s := Sha2.ofBytes signature
  signature.length == k.size && s < k.modulus
    && block? h k.size message == some (Sha2.bytesOf k.size (powMod k.modulus s k.exponent))

end Rsa

end Targeting.Crypto
