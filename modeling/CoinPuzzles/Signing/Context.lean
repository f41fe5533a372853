import CoinPuzzles.Coin.Basic
import CoinPuzzles.Program.Codec
import CoinPuzzles.Runner.Session
import CoinPuzzles.Signing.Scheme

/-!
# Signing/Context — readiness, and why signing fails

Signing has to be made ready once before a signature is made or added up.
-/

namespace CoinPuzzles

/-- Whether signing has been made ready. -/
inductive SigningContext where
  | missing
  | ready
deriving DecidableEq

/-- Why no signature is made. -/
inductive SigningError where
  /-- Signing has not been made ready. -/
  | notReady
  /-- The text is no key. -/
  | invalidKey
  /-- The byte string is no signature. -/
  | invalidSignature (bytes : Bytes)
  /-- No key at hand has the public key that a coin asks for. -/
  | missingKey (publicKey coinId : Bytes)
  /-- A condition asks for a signature and lacks a public key or a message. -/
  | malformedCondition (condition : Program)
  /-- The runner has no result. -/
  | execution (cause : ExecutionError)
  /-- The result of the runner is no program. -/
  | program (cause : ProgramError)
deriving DecidableEq

/-- The wording of a failure. -/
def SigningError.message : SigningError → String
  | .notReady => "BLS not initialized; call initialize_signing() first"
  | .invalidKey => "Invalid BLS private key"
  | .invalidSignature bytes => "Invalid BLS signature " ++ Bytes.toMarkedHex bytes
  | .missingKey publicKey coinId =>
    "No private key for public key " ++ Bytes.toMarkedHex publicKey ++ " required by coin " ++
      Bytes.toMarkedHex coinId
  | .malformedCondition condition => "Malformed AGG_SIG condition: " ++ condition.toHex
  | .execution cause => cause.message
  | .program cause => cause.message

/-- Fails unless signing is ready. -/
def SigningContext.require : SigningContext → Except SigningError Unit
  | .ready => .ok ()
  | .missing => .error .notReady

/-- The key that a hexadecimal text spells. -/
def Scheme.keyOfHex (S : Scheme) (text : String) : Except SigningError S.Key :=
  match (Bytes.ofHexSized 32 text).toOption.bind S.keyOfBytes? with
  | some key => .ok key
  | none => .error .invalidKey

end CoinPuzzles
