import CoinPuzzles.Signing.Context

/-!
# Signing/Aggregate — bundles merged into one

Bundles without a signature are left out; of the others the signatures are added up and the spends
are put one after another.
-/

namespace CoinPuzzles

variable (S : Scheme)

/-- The signature of a byte string. -/
def Scheme.signatureOf (bytes : Bytes) : Except SigningError S.Signature :=
  match S.signatureOfBytes? bytes with
  | some s => .ok s
  | none => .error (.invalidSignature bytes)

/-- The bundles that are there and signed. -/
def signedBundles (bundles : List (Option Bundle)) : List Bundle :=
  bundles.filterMap fun b => b.bind fun b => if b.signature.isEmpty then none else some b

/-- The bundle of the given bundles. -/
def combine (context : SigningContext) (bundles : List (Option Bundle)) :
    Except SigningError Bundle := do
  context.require
  let signed := signedBundles bundles
  let signatures ← signed.mapM fun b => S.signatureOf b.signature
  return ⟨S.signatureBytes (S.aggregate signatures), signed.flatMap (·.spends)⟩

end CoinPuzzles
