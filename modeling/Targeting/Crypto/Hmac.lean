import Targeting.Crypto.Sha2

/-!
Keyed hashes: a message is hashed behind a block made of the key, and the hash once more behind
another one. A key that is longer than a block is hashed first, a shorter one is filled up with
zeros.
-/

namespace Targeting.Crypto.Sha2

/-- A key as one block. -/
def keyBlock (h : Sha2) (key : List Nat) : List Nat :=
  let key := if h.blockBytes < key.length then h.hash key else key
  key ++ List.replicate (h.blockBytes - key.length) 0

/-- The keyed hash of a message. -/
def keyed (h : Sha2) (key message : List Nat) : List Nat :=
  let block := h.keyBlock key
  let masked (mask : Nat) : List Nat := block.map (Nat.xor mask)
  h.hash (masked 0x5C ++ h.hash (masked 0x36 ++ message))

end Targeting.Crypto.Sha2
