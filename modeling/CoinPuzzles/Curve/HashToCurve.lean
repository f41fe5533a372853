import CoinPuzzles.Curve.Point
import CoinPuzzles.Digest.Sha256

/-!
# Curve/HashToCurve — messages as points of the signature group

A message is stretched to 256 bytes under a domain tag; they spell two elements of the extension
field.  Each is mapped to a curve isogenous to the signature curve, carried over by the isogeny, and
the sum of both is multiplied into the group.
-/

namespace CoinPuzzles.Curve

/-- Bytes combined by exclusive or. -/
def xorBytes (a b : Bytes) : Bytes := List.zipWith (· ^^^ ·) a b

/-- Blocks `i`, `i + 1`, … of a stretched message, `count` of them, each from the one before. -/
def stretchBlocks (b₀ tag : Bytes) : Nat → Nat → Bytes → Bytes
  | 0, _, _ => []
  | count + 1, i, previous =>
    let block := Sha256.digest (xorBytes b₀ previous ++ [UInt8.ofNat i] ++ tag)
    block ++ stretchBlocks b₀ tag count (i + 1) block

/-- A message stretched to `32 · blocks` bytes under a domain tag. -/
def stretch (domain message : Bytes) (blocks : Nat) : Bytes :=
  let tag := domain ++ [UInt8.ofNat domain.length]
  let b₀ := Sha256.digest
    (List.replicate 64 0 ++ message ++ Bytes.fixed 2 (32 * blocks) ++ [0] ++ tag)
  stretchBlocks b₀ tag blocks 1 (List.replicate 32 0)

/-! ## The map to the isogenous curve -/

def isoA : Fp2 := Fp2.of 0 240

def isoB : Fp2 := Fp2.of 1012 1012

/-- The non-square that the map multiplies by. -/
def isoZ : Fp2 := -Fp2.of 2 1

/-- The right-hand side of the equation of the isogenous curve. -/
def isoCurve (x : Fp2) : Fp2 := x * x * x + isoA * x + isoB

/-- The point of the isogenous curve for a field element: of two first coordinates one is on the
curve, and the second coordinate has the parity of the element. -/
def mapToIso (u : Fp2) : Fp2 × Fp2 :=
  let zu := isoZ * (u * u)
  let t := zu * zu + zu
  let x₁ :=
    if t = CoordinateField.zero then isoB * inv (isoZ * isoA)
    else -isoB * inv isoA * (CoordinateField.ofNat 1 + inv t)
  let x := if (isoCurve x₁).isSquare then x₁ else zu * x₁
  let y := (isoCurve x).root?.getD CoordinateField.zero
  (x, if y.isOdd == u.isOdd then y else -y)

/-! ## The isogeny -/

/-- The value of a polynomial, lowest coefficient first. -/
def evaluate (coefficients : List Fp2) (x : Fp2) : Fp2 :=
  coefficients.foldr (fun c acc => acc * x + c) CoordinateField.zero

def isoXNumerator : List Fp2 := [
  Fp2.of
    0x5c759507e8e333ebb5b7a9a47d7ed8532c52d39fd3a042a88b58423c50ae15d5c2638e343d9c71c6238aaaaaaaa97d6
    0x5c759507e8e333ebb5b7a9a47d7ed8532c52d39fd3a042a88b58423c50ae15d5c2638e343d9c71c6238aaaaaaaa97d6,
  Fp2.of 0
    0x11560bf17baa99bc32126fced787c88f984f87adf7ae0c7f9a208c6b4f20a4181472aaa9cb8d555526a9ffffffffc71a,
  Fp2.of
    0x11560bf17baa99bc32126fced787c88f984f87adf7ae0c7f9a208c6b4f20a4181472aaa9cb8d555526a9ffffffffc71e
    0x8ab05f8bdd54cde190937e76bc3e447cc27c3d6fbd7063fcd104635a790520c0a395554e5c6aaaa9354ffffffffe38d,
  Fp2.of
    0x171d6541fa38ccfaed6dea691f5fb614cb14b4e7f4e810aa22d6108f142b85757098e38d0f671c7188e2aaaaaaaa5ed1
    0]

def isoXDenominator : List Fp2 :=
  [-Fp2.of 0 72, Fp2.of 12 0 - Fp2.of 0 12, Fp2.of 1 0]

def isoYNumerator : List Fp2 := [
  Fp2.of
    0x1530477c7ab4113b59a4c18b076d11930f7da5d4a07f649bf54439d87d27e500fc8c25ebf8c92f6812cfc71c71c6d706
    0x1530477c7ab4113b59a4c18b076d11930f7da5d4a07f649bf54439d87d27e500fc8c25ebf8c92f6812cfc71c71c6d706,
  Fp2.of 0
    0x5c759507e8e333ebb5b7a9a47d7ed8532c52d39fd3a042a88b58423c50ae15d5c2638e343d9c71c6238aaaaaaaa97be,
  Fp2.of
    0x11560bf17baa99bc32126fced787c88f984f87adf7ae0c7f9a208c6b4f20a4181472aaa9cb8d555526a9ffffffffc71c
    0x8ab05f8bdd54cde190937e76bc3e447cc27c3d6fbd7063fcd104635a790520c0a395554e5c6aaaa9354ffffffffe38f,
  Fp2.of
    0x124c9ad43b6cf79bfbf7043de3811ad0761b0f37a1e26286b0e977c69aa274524e79097a56dc4bd9e1b371c71c718b10
    0]

def isoYDenominator : List Fp2 :=
  [-Fp2.of 432 432, -Fp2.of 0 216, Fp2.of 18 0 - Fp2.of 0 18, Fp2.of 1 0]

/-- The point of the signature curve for a point of the isogenous curve. -/
def fromIso (p : Fp2 × Fp2) : Point Fp2 :=
  .affine (evaluate isoXNumerator p.1 * inv (evaluate isoXDenominator p.1))
    (p.2 * (evaluate isoYNumerator p.1 * inv (evaluate isoYDenominator p.1)))

/-! ## The hash -/

/-- The factor that carries the points of the signature curve into the group. -/
def cofactor : Nat :=
  0xbc69f08f2ee75b3584c6a0ea91b352888e2a8e9145ad7689986ff031508ffe1329c2f178731db956d82bf015d1212b02ec0ec69d7477c1ae954cbc06689f6a359894c0adebbf6b4e8020005aaa95551

/-- The element of the extension field that 128 bytes spell. -/
def fieldElement (b : Bytes) : Fp2 := Fp2.of (Bytes.toNat (b.take 64)) (Bytes.toNat (b.drop 64))

/-- The point of the group for a message under a domain tag. -/
def hashToCurve (domain message : Bytes) : Point Fp2 :=
  let b := stretch domain message 8
  ((fromIso (mapToIso (fieldElement (b.take 128)))).add
    (fromIso (mapToIso (fieldElement (b.drop 128))))).times cofactor

end CoinPuzzles.Curve
