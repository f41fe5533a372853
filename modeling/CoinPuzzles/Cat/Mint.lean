import CoinPuzzles.Cat.Memo
import CoinPuzzles.Cat.Puzzle
import CoinPuzzles.Funding.Plan
import CoinPuzzles.Signing.Aggregate
import CoinPuzzles.Signing.Spends

/-!
# Cat/Mint — minting an asset

A first plan, for a target that stands for any puzzle, decides which coin bootstraps the asset.  A
second plan pays the asset puzzle; a builder outside this library turns it into a signed bundle.
The first spend of the asset is signed here, and both bundles are merged.
-/

namespace CoinPuzzles

/-- What is to be minted, and for whom. -/
structure MintOrder where
  target : Bytes
  changePuzzleHash : Bytes
  amount : Int
  fee : Int
  memo : String
  coins : List Coin
  template : String

/-- Why nothing is minted. -/
inductive MintError where
  | notPositive (amount : String)
  /-- An amount that is not positive has too many digits to be shown. -/
  | numeral (cause : NumeralError)
  | plan (cause : PlanError)
  | cat (cause : CatError)
  | coin (cause : CoinError)
  | signing (cause : SigningError)
deriving DecidableEq

/-- The wording of a failure. -/
def MintError.message : MintError → String
  | .notPositive amount => "Mint amount must be positive, got " ++ amount
  | .numeral cause => cause.message
  | .plan cause => cause.message
  | .cat cause => cause.message
  | .coin cause => cause.message
  | .signing cause => cause.message

/-- The failure for an amount that is not positive. -/
def MintError.ofAmount (amount : Int) : MintError :=
  match Numeral.write amount with
  | .ok shown => .notPositive shown
  | .error cause => .numeral cause

/-- The bundle that mints an asset, and the id of the asset. -/
structure Minted where
  bundle : Bundle
  assetId : Bytes

/-- The document of what was minted. -/
def Minted.toDocument (m : Minted) : Value :=
  .object [("spend_bundle", m.bundle.toDocument), ("asset_id", m.assetId.toValue)]

/-- The puzzle of an asset and the plan that pays it. -/
structure MintDraft where
  cat : CatPuzzle
  plan : Plan

namespace MintOrder

/-- The puzzle hash of the target that stands for any puzzle. -/
def placeholder : Bytes := List.replicate 32 0

/-- The plan that pays the amount to a puzzle hash. -/
def planFor (o : MintOrder) (puzzleHash : Bytes) : Except PlanError Plan :=
  Plan.make o.coins [⟨puzzleHash, o.amount⟩] o.changePuzzleHash o.fee

/-- Everything that is decided before the builder is asked. -/
def draft (o : MintOrder) (r : Registry) : Except MintError MintDraft := do
  if o.amount ≤ 0 then .error (.ofAmount o.amount)
  let bootstrap ← (o.planFor placeholder).mapError .plan
  let cat ← (CatPuzzle.make r bootstrap.primary.id o.target o.amount (Memo.sanitize o.memo)
    o.template).mapError .cat
  let plan ← (o.planFor cat.puzzleHash).mapError .plan
  return ⟨cat, plan⟩

end MintOrder

/-- Signs the first spend of a drafted asset and merges it with the builder's bundle. -/
def MintDraft.complete (S : Scheme) (context : SigningContext) (draft : MintDraft) (amount : Int)
    (key : S.Key) (internal : Bundle) (runner : Runner) (genesis : Bytes) :
    Session MintError Minted := do
  let eve ← Session.ofExcept ((draft.cat.eveSpend amount).mapError .coin)
  let external ← (signSpends S context [key] genesis runner [eve]).mapError .signing
  let bundle ← Session.ofExcept
    ((combine S context [some internal, some external]).mapError .signing)
  return ⟨bundle, draft.cat.tailHash⟩

/-- What came of an order: the plans handed to the builder, the calls made to the runner, and the
outcome. -/
structure MintAttempt where
  plans : List Plan
  calls : List Call
  outcome : Except MintError Minted

/-- Mints an asset. -/
def mint (S : Scheme) (context : SigningContext) (o : MintOrder) (key : S.Key)
    (builder : Plan → Bundle) (r : Registry) (runner : Runner) (genesis : Bytes) : MintAttempt :=
  match o.draft r with
  | .error e => ⟨[], [], .error e⟩
  | .ok draft =>
    let (outcome, calls) :=
      (draft.complete S context o.amount key (builder draft.plan) runner genesis).outcome
    ⟨[draft.plan], calls, outcome⟩

end CoinPuzzles
