import Targeting.Number.Rounding

/-!
The SHA-2 family of hash functions. Its members share one compression of blocks and differ in the
size of their words, in how words are rotated, in the words that they start from, and in how much
of the last state is the hash. Their constants are the first bits behind the point of roots of the
first primes: square roots for the start, cube roots for the rounds.
-/

namespace Targeting.Crypto

open Number

def isPrime (n : Nat) : Bool :=
  2 ≤ n && (List.range n).all fun d => d < 2 || n % d != 0

/-- The first eighty primes. -/
def primes : List Nat := (List.range 410).filter isPrime

/-- The greatest number between `low` and `high` whose power is at most `n`. -/
def rootBetween (degree n : Nat) : Nat → Nat → Nat → Nat
  | 0, low, _ => low
  | fuel + 1, low, high =>
      if high ≤ low + 1 then low
      else
        let middle := (low + high) / 2
        if Nat.pow middle degree ≤ n then rootBetween degree n fuel middle high
        else rootBetween degree n fuel low middle

/-- The first bits behind the point of a root. -/
def rootBits (degree bits n : Nat) : Nat :=
  rootBetween degree (n * twoPow (degree * bits)) (bits + 10) 0 (twoPow (bits + 9)) % twoPow bits

/-- Three distances by which a word is rotated, or in the last place perhaps shifted. -/
structure Turns where
  first : Nat
  second : Nat
  third : Nat

/-- A member of the family. -/
structure Sha2 where
  wordBits : Nat
  /-- Constants of the rounds. -/
  rounds : List Nat
  /-- Words of the first state. -/
  start : List Nat
  hashBytes : Nat
  /-- Rotations of the first and of the fifth word of the state. -/
  upper : Turns
  lower : Turns
  /-- Rotations and shift of the fifteenth and of the second word back. -/
  far : Turns
  near : Turns

namespace Sha2

/-- The words from given primes on. -/
def startFrom (bits skipped : Nat) : List Nat :=
  ((primes.drop skipped).take 8).map (rootBits 2 bits)

def roundsOf (bits count : Nat) : List Nat :=
  (primes.take count).map (rootBits 3 bits)

def sha256 : Sha2 where
  wordBits := 32
  rounds := roundsOf 32 64
  start := startFrom 32 0
  hashBytes := 32
  upper := ⟨2, 13, 22⟩
  lower := ⟨6, 11, 25⟩
  far := ⟨7, 18, 3⟩
  near := ⟨17, 19, 10⟩

def sha512 : Sha2 where
  wordBits := 64
  rounds := roundsOf 64 80
  start := startFrom 64 0
  hashBytes := 64
  upper := ⟨28, 34, 39⟩
  lower := ⟨14, 18, 41⟩
  far := ⟨1, 8, 7⟩
  near := ⟨19, 61, 6⟩

def sha384 : Sha2 :=
  { sha512 with
    start := startFrom 64 8
    hashBytes := 48 }

def wordBytes (h : Sha2) : Nat := h.wordBits / 8

/-- Blocks have sixteen words. -/
def blockBytes (h : Sha2) : Nat := 16 * h.wordBytes

def rotate (h : Sha2) (n x : Nat) : Nat :=
  x / twoPow n + x % twoPow n * twoPow (h.wordBits - n)

/-- A word rotated three times, joined bit by bit. -/
def turned (h : Sha2) (t : Turns) (x : Nat) : Nat :=
  Nat.xor (h.rotate t.first x) (Nat.xor (h.rotate t.second x) (h.rotate t.third x))

/-- A word rotated twice and shifted once, joined bit by bit. -/
def smeared (h : Sha2) (t : Turns) (x : Nat) : Nat :=
  Nat.xor (h.rotate t.first x) (Nat.xor (h.rotate t.second x) (x / twoPow t.third))

def sum (h : Sha2) (xs : List Nat) : Nat := xs.foldl (· + ·) 0 % twoPow h.wordBits

/-- Adds words behind those of a block; the words are held with the last one first. -/
def extended (h : Sha2) : Nat → List Nat → List Nat
  | 0, ws => ws
  | n + 1, ws =>
      extended h n
        (h.sum [h.smeared h.near (ws.getD 1 0), ws.getD 6 0, h.smeared h.far (ws.getD 14 0),
          ws.getD 15 0] :: ws)

/-- The words of all rounds of a block. -/
def schedule (h : Sha2) (block : List Nat) : List Nat :=
  (h.extended (h.rounds.length - 16) block.reverse).reverse

/-- The eight words of a state. -/
structure Registers where
  a : Nat
  b : Nat
  c : Nat
  d : Nat
  e : Nat
  f : Nat
  g : Nat
  h : Nat

namespace Registers

def ofList (ws : List Nat) : Registers :=
  ⟨ws.getD 0 0, ws.getD 1 0, ws.getD 2 0, ws.getD 3 0, ws.getD 4 0, ws.getD 5 0, ws.getD 6 0,
    ws.getD 7 0⟩

def toList (r : Registers) : List Nat := [r.a, r.b, r.c, r.d, r.e, r.f, r.g, r.h]

end Registers

/-- One bit of `y` or `z` for each bit of `x`. -/
def choice (h : Sha2) (x y z : Nat) : Nat :=
  Nat.xor (Nat.land x y) (Nat.land (twoPow h.wordBits - 1 - x) z)

/-- The bit that two of three words agree on. -/
def majority (x y z : Nat) : Nat :=
  Nat.xor (Nat.land x y) (Nat.xor (Nat.land x z) (Nat.land y z))

/-- One round with the sum of its constant and its word. -/
def round (h : Sha2) (r : Registers) (input : Nat) : Registers :=
  let first := h.sum [r.h, h.turned h.lower r.e, h.choice r.e r.f r.g, input]
  let second := h.sum [h.turned h.upper r.a, majority r.a r.b r.c]
  ⟨h.sum [first, second], r.a, r.b, r.c, h.sum [r.d, first], r.e, r.f, r.g⟩

/-- The state after a block. -/
def compress (h : Sha2) (state block : List Nat) : List Nat :=
  let inputs := (h.rounds.zip (h.schedule block)).map fun (k, w) => k + w
  let last := inputs.foldl h.round (.ofList state)
  (state.zip last.toList).map fun (x, y) => h.sum [x, y]

/-- The bytes of a number, the highest first. -/
def bytesOf : Nat → Nat → List Nat
  | 0, _ => []
  | width + 1, n => bytesOf width (n / 256) ++ [n % 256]

def ofBytes (bytes : List Nat) : Nat := bytes.foldl (fun n b => 256 * n + b) 0

/-- The first `count` pieces of a length. -/
def pieces (length : Nat) : Nat → List Nat → List (List Nat)
  | 0, _ => []
  | count + 1, xs => xs.take length :: pieces length count (xs.drop length)

/-- A message with a single bit, zeros, and its length in bits behind it, in whole blocks. -/
def padded (h : Sha2) (message : List Nat) : List Nat :=
  let lengthBytes := 2 * h.wordBytes
  let used := (message.length + 1 + lengthBytes) % h.blockBytes
  message ++ 0x80 :: List.replicate ((h.blockBytes - used) % h.blockBytes) 0
    ++ bytesOf lengthBytes (8 * message.length)

/-- The hash of a message. -/
def hash (h : Sha2) (message : List Nat) : List Nat :=
  let text := h.padded message
  let blocks := pieces h.blockBytes (text.length / h.blockBytes) text
  let last := blocks.foldl
    (fun state block => h.compress state ((pieces h.wordBytes 16 block).map ofBytes)) h.start
  (last.flatMap (bytesOf h.wordBytes)).take h.hashBytes

end Sha2

end Targeting.Crypto
