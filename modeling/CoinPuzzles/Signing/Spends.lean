import CoinPuzzles.Signing.Context

/-!
# Signing/Spends — the signatures that spends ask for

Running the puzzle of a spend yields conditions.  Two kinds ask for a signature: one of the message
as it stands, one of the message bound to the coin and to the network.  `signSpends` makes all of
them and adds them up.
-/

namespace CoinPuzzles

/-- The number of the condition that asks for a signature of its message. -/
def signMessage : Int := 49

/-- The number of the condition that asks for a signature bound to the coin. -/
def signCoinMessage : Int := 50

/-- A signature that is asked for: the public key and the whole message. -/
structure Demand where
  publicKey : Bytes
  message : Bytes
deriving DecidableEq

/-- What a condition of a spend asks for. -/
def demandOf (coin : Coin) (genesis : Bytes) (condition : Program) :
    Except SigningError (Option Demand) :=
  match condition.elements with
  | .atom op :: args =>
    let number := Bytes.toInt op
    if number = signMessage ∨ number = signCoinMessage then
      match args with
      | .atom key :: .atom message :: _ =>
        .ok (some ⟨key, if number = signMessage then message else message ++ coin.id ++ genesis⟩)
      | _ => .error (.malformedCondition condition)
    else .ok none
  | _ => .ok none

/-- What a list of conditions asks for, in order. -/
def demandsOf (coin : Coin) (genesis : Bytes) (conditions : Program) :
    Except SigningError (List Demand) :=
  (conditions.elements.mapM (demandOf coin genesis)).map (·.filterMap id)

/-- The call that runs the puzzle of a spend. -/
def Spend.call (s : Spend) : Call :=
  ⟨Bytes.toMarkedHex s.puzzleReveal, Bytes.toMarkedHex s.solution⟩

/-- The signatures that a spend asks for. -/
def demands (runner : Runner) (genesis : Bytes) (s : Spend) :
    Session SigningError (List Demand) := do
  let result ← (runner.ask s.call).mapError .execution
  let conditions ← Session.ofExcept ((Program.ofHex result).mapError .program)
  Session.ofExcept (demandsOf s.coin genesis conditions)

variable (S : Scheme)

/-- Keys beside their public keys. -/
def Scheme.keyring (keys : List S.Key) : List (Bytes × S.Key) :=
  keys.map fun k => (S.publicKey k, k)

/-- The key of a public key; of several the last. -/
def Scheme.keyFor? (ring : List (Bytes × S.Key)) (publicKey : Bytes) : Option S.Key :=
  (ring.reverse.find? (·.1 == publicKey)).map (·.2)

/-- The signature that a spend asks for. -/
def Scheme.meet (ring : List (Bytes × S.Key)) (coin : Coin) (d : Demand) :
    Except SigningError S.Signature :=
  match S.keyFor? ring d.publicKey with
  | some key => .ok (S.sign key d.message)
  | none => .error (.missingKey d.publicKey coin.id)

/-- The signatures that a spend asks for, made. -/
def signSpend (ring : List (Bytes × S.Key)) (genesis : Bytes) (runner : Runner) (s : Spend) :
    Session SigningError (List S.Signature) := do
  let ds ← demands runner genesis s
  Session.ofExcept (ds.mapM (S.meet ring s.coin))

/-- The signed bundle of the given spends. -/
def signSpends (context : SigningContext) (keys : List S.Key) (genesis : Bytes) (runner : Runner)
    (spends : List Spend) : Session SigningError Bundle := do
  Session.ofExcept context.require
  let signatures ← spends.mapM (signSpend S (S.keyring keys) genesis runner)
  return ⟨S.signatureBytes (S.aggregate signatures.flatten), spends⟩

end CoinPuzzles
