import CoinPuzzles.Bytes.Basic
import CoinPuzzles.Curve.Point

/-!
# Curve/Compressed — points as byte strings

A point is written by its first coordinate; three bits in front say that the form is compressed,
whether the point is infinity, and which of the two second coordinates is meant.  The reader of
signatures accepts one form of every point of the group and nothing else.
-/

namespace CoinPuzzles.Curve

/-- The bytes of a field element. -/
def Fp.toBytes (a : Fp) : Bytes := Bytes.fixed 48 a.val

/-- The bytes of an element of the extension, imaginary part first. -/
def Fp2.toBytes (a : Fp2) : Bytes := a.im.toBytes ++ a.re.toBytes

/-- The field element of a byte string that is below the modulus. -/
def Fp.ofBytes? (b : Bytes) : Option Fp :=
  if h : b.toNat < modulus then some ⟨b.toNat, h⟩ else none

/-- Sets the compression mark, and the mark of the larger coordinate if `large`. -/
def setMarks (large : Bool) : Bytes → Bytes
  | [] => []
  | b :: rest => (b ||| (if large then 0xA0 else 0x80)) :: rest

/-- The bytes of infinity among strings of `size` bytes. -/
def infinityBytes (size : Nat) : Bytes := 0xC0 :: List.replicate (size - 1) 0

/-- The bytes of a public key. -/
def keyBytes : Point Fp → Bytes
  | .infinity => infinityBytes 48
  | .affine x y => setMarks y.isLarge x.toBytes

/-- The bytes of a signature. -/
def signatureBytes : Point Fp2 → Bytes
  | .infinity => infinityBytes 96
  | .affine x y => setMarks y.isLarge x.toBytes

/-- The right-hand side of the equation of the signature curve. -/
def signatureCurve (x : Fp2) : Fp2 := x * x * x + Fp2.of 4 4

/-- The point with a first coordinate whose second one is the larger, or the smaller, root. -/
def liftSignature? (large : Bool) (x : Fp2) : Option (Point Fp2) :=
  (signatureCurve x).root?.map fun y => .affine x (if y.isLarge == large then y else -y)

/-- The signature that a byte string is the form of. -/
def signatureOfBytes? (b : Bytes) : Option (Point Fp2) :=
  if b.length ≠ 96 then none
  else if b = infinityBytes 96 then some .infinity
  else
    match b with
    | [] => none
    | first :: rest =>
      if first &&& 0xC0 = 0x80 then do
        let im ← Fp.ofBytes? ((first &&& 0x1F) :: rest.take 47)
        let re ← Fp.ofBytes? (rest.drop 47)
        let p ← liftSignature? (first &&& 0x20 = 0x20) ⟨re, im⟩
        if p.times groupOrder = .infinity then some p else none
      else none

end CoinPuzzles.Curve
