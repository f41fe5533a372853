import CoinPuzzles.Bytes.Basic

/-!
# Digest/Sha256 — the SHA-256 digest of a byte string

A message is padded to whole blocks of 64 bytes; each block stirs a state of eight words through
64 rounds.  Main statements: `length_digest`, a digest has 32 bytes, and `length_pad`, a padded
message fills its blocks.
-/

namespace CoinPuzzles.Sha256

/-- The round constants: the fractions of the cube roots of the first 64 primes. -/
def roundConstants : List UInt32 := [
  0x428a2f98, 0x71374491, 0xb5c0fbcf, 0xe9b5dba5, 0x3956c25b, 0x59f111f1, 0x923f82a4, 0xab1c5ed5,
  0xd807aa98, 0x12835b01, 0x243185be, 0x550c7dc3, 0x72be5d74, 0x80deb1fe, 0x9bdc06a7, 0xc19bf174,
  0xe49b69c1, 0xefbe4786, 0x0fc19dc6, 0x240ca1cc, 0x2de92c6f, 0x4a7484aa, 0x5cb0a9dc, 0x76f988da,
  0x983e5152, 0xa831c66d, 0xb00327c8, 0xbf597fc7, 0xc6e00bf3, 0xd5a79147, 0x06ca6351, 0x14292967,
  0x27b70a85, 0x2e1b2138, 0x4d2c6dfc, 0x53380d13, 0x650a7354, 0x766a0abb, 0x81c2c92e, 0x92722c85,
  0xa2bfe8a1, 0xa81a664b, 0xc24b8b70, 0xc76c51a3, 0xd192e819, 0xd6990624, 0xf40e3585, 0x106aa070,
  0x19a4c116, 0x1e376c08, 0x2748774c, 0x34b0bcb5, 0x391c0cb3, 0x4ed8aa4a, 0x5b9cca4f, 0x682e6ff3,
  0x748f82ee, 0x78a5636f, 0x84c87814, 0x8cc70208, 0x90befffa, 0xa4506ceb, 0xbef9a3f7, 0xc67178f2]

/-- Eight words, the state between two blocks. -/
structure State where
  a : UInt32
  b : UInt32
  c : UInt32
  d : UInt32
  e : UInt32
  f : UInt32
  g : UInt32
  h : UInt32

/-- The state before the first block: the fractions of the square roots of the first 8 primes. -/
def State.initial : State :=
  ⟨0x6a09e667, 0xbb67ae85, 0x3c6ef372, 0xa54ff53a,
   0x510e527f, 0x9b05688c, 0x1f83d9ab, 0x5be0cd19⟩

/-- A word with its bits moved right by `k` places, around the end. -/
def rotate (x : UInt32) (k : UInt32) : UInt32 := (x >>> k) ||| (x <<< (32 - k))

def bigSigma0 (x : UInt32) : UInt32 := rotate x 2 ^^^ rotate x 13 ^^^ rotate x 22

def bigSigma1 (x : UInt32) : UInt32 := rotate x 6 ^^^ rotate x 11 ^^^ rotate x 25

def smallSigma0 (x : UInt32) : UInt32 := rotate x 7 ^^^ rotate x 18 ^^^ (x >>> 3)

def smallSigma1 (x : UInt32) : UInt32 := rotate x 17 ^^^ rotate x 19 ^^^ (x >>> 10)

/-- The words that a byte string spells, four bytes a word. -/
def wordsOf : Bytes → List UInt32
  | a :: b :: c :: d :: rest =>
    ((a.toUInt32 <<< 24) ||| (b.toUInt32 <<< 16) ||| (c.toUInt32 <<< 8) ||| d.toUInt32) ::
      wordsOf rest
  | _ => []

/-- Lengthens a message schedule, newest word first, by `k` words. -/
def schedule : Nat → List UInt32 → List UInt32
  | 0, ws => ws
  | k + 1, ws =>
    schedule k
      ((smallSigma1 (ws.getD 1 0) + ws.getD 6 0 + smallSigma0 (ws.getD 14 0) + ws.getD 15 0) :: ws)

/-- One round, with its constant and its word of the schedule. -/
def State.round (s : State) (kw : UInt32 × UInt32) : State :=
  let t1 := s.h + bigSigma1 s.e + ((s.e &&& s.f) ^^^ (~~~s.e &&& s.g)) + kw.1 + kw.2
  let t2 := bigSigma0 s.a + ((s.a &&& s.b) ^^^ (s.a &&& s.c) ^^^ (s.b &&& s.c))
  ⟨t1 + t2, s.a, s.b, s.c, s.d + t1, s.e, s.f, s.g⟩

/-- Word by word sum of two states. -/
def State.add (s t : State) : State :=
  ⟨s.a + t.a, s.b + t.b, s.c + t.c, s.d + t.d, s.e + t.e, s.f + t.f, s.g + t.g, s.h + t.h⟩

/-- Stirs one block into a state. -/
def State.absorb (s : State) (block : Bytes) : State :=
  let words := (schedule 48 (wordsOf block).reverse).reverse
  s.add ((roundConstants.zip words).foldl State.round s)

/-- Stirs in `k` blocks of 64 bytes from the front of a byte string. -/
def State.absorbBlocks : Nat → State → Bytes → State
  | 0, s, _ => s
  | k + 1, s, bytes => absorbBlocks k (s.absorb (bytes.take 64)) (bytes.drop 64)

/-- The number of zero bytes between a message of `n` bytes and its length. -/
def zeroCount (n : Nat) : Nat := (119 - n % 64) % 64

/-- The message, a set bit, zeros, and the length in bits, in whole blocks. -/
def pad (message : Bytes) : Bytes :=
  message ++ 0x80 :: (List.replicate (zeroCount message.length) 0 ++
    Bytes.fixed 8 (8 * message.length))

/-- The four bytes of a word. -/
def wordBytes (x : UInt32) : Bytes :=
  [(x >>> 24).toUInt8, (x >>> 16).toUInt8, (x >>> 8).toUInt8, x.toUInt8]

/-- The bytes of a state. -/
def State.toBytes (s : State) : Bytes :=
  [s.a, s.b, s.c, s.d, s.e, s.f, s.g, s.h].flatMap wordBytes

/-- The digest of a message. -/
def digest (message : Bytes) : Bytes :=
  let padded := pad message
  (State.initial.absorbBlocks (padded.length / 64) padded).toBytes

theorem State.length_toBytes (s : State) : s.toBytes.length = 32 := rfl

/-- **A digest has 32 bytes.** -/
@[simp] theorem length_digest (message : Bytes) : (digest message).length = 32 :=
  State.length_toBytes _

/-- **A padded message fills its blocks.** -/
theorem length_pad (message : Bytes) : (pad message).length % 64 = 0 := by
  simp only [pad, List.length_append, List.length_cons, List.length_replicate,
    Bytes.length_fixed, zeroCount]
  omega

end CoinPuzzles.Sha256
