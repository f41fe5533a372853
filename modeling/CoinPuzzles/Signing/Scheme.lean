import CoinPuzzles.Curve.Compressed
import CoinPuzzles.Curve.HashToCurve

/-!
# Signing/Scheme — aggregate signature schemes

A scheme has keys, signatures and a way to add signatures up.  `bls` is the scheme of the ledger:
the public key is written in front of the message, the message is hashed to the curve, and the hash
is multiplied by the key.
-/

namespace CoinPuzzles

/-- A signature scheme whose signatures can be aggregated. -/
structure Scheme where
  Key : Type
  Signature : Type
  /-- The key of a byte string, if it is one. -/
  keyOfBytes? : Bytes → Option Key
  publicKey : Key → Bytes
  sign : Key → Bytes → Signature
  /-- The signature of a byte string, if it is one. -/
  signatureOfBytes? : Bytes → Option Signature
  signatureBytes : Signature → Bytes
  aggregate : List Signature → Signature

/-- The domain tag of the ledger's signatures. -/
def blsDomain : Bytes := Bytes.ofAscii "BLS_SIG_BLS12381G2_XMD:SHA-256_SSWU_RO_AUG_"

/-- The public key of a key. -/
def blsPublicKey (key : Nat) : Bytes := Curve.keyBytes (Curve.generator.times key)

/-- The scheme of the ledger. -/
def bls : Scheme where
  Key := Nat
  Signature := Curve.Point Curve.Fp2
  keyOfBytes? b :=
    if b.length = 32 ∧ Bytes.toNat b < Curve.groupOrder then some (Bytes.toNat b) else none
  publicKey := blsPublicKey
  sign key message := (Curve.hashToCurve blsDomain (blsPublicKey key ++ message)).times key
  signatureOfBytes? := Curve.signatureOfBytes?
  signatureBytes := Curve.signatureBytes
  aggregate := Curve.Point.sum

end CoinPuzzles
