import CoinPuzzles.Coin.Document
import CoinPuzzles.Order.Lexicographic

/-!
# Funding/Plan — choosing the coins that pay for a spend

Coins are taken in the order of their amounts, of equal ones in the order of their ids, until they
cover the targets and the fee.  A plan has at least one coin; the first is its primary coin, whose
spend creates the targets and the change.  A refusal shows the numbers that it is about, so one of
too many digits takes the place of the refusal.
-/

namespace CoinPuzzles

/-- An amount to be created under a puzzle hash. -/
structure Target where
  puzzleHash : Bytes
  amount : Int
deriving DecidableEq

/-- Coins chosen to pay for targets and a fee, and what is left over. -/
structure Plan where
  primary : Coin
  others : List Coin
  targets : List Target
  changePuzzleHash : Bytes
  change : Nat
  fee : Nat
deriving DecidableEq

/-- Why coins do not pay for a spend; numbers are given as they are shown. -/
inductive PlanError where
  | negativeFee (fee : String)
  /-- The amount of a target is below zero. -/
  | negativeTarget
  /-- There is no coin. -/
  | noCoins
  | insufficient (needed available : String)
  /-- A number that the refusal is about has too many digits to be shown. -/
  | numeral (cause : NumeralError)
deriving DecidableEq

/-- The wording of a failure. -/
def PlanError.message : PlanError → String
  | .negativeFee fee => "Fee must be non-negative, got " ++ fee
  | .negativeTarget => "Target amounts must be non-negative"
  | .noCoins => "No spendable coins available"
  | .insufficient needed available =>
    "Insufficient funds: needed " ++ needed ++ ", available " ++ available
  | .numeral cause => cause.message

/-- Whether a failure is a refusal, and not that a number in it cannot be shown. -/
def PlanError.isRefusal : PlanError → Bool
  | .numeral _ => false
  | _ => true

/-- The failure for a fee below zero. -/
def PlanError.ofFee (fee : Int) : PlanError :=
  match Numeral.write fee with
  | .ok shown => .negativeFee shown
  | .error cause => .numeral cause

/-- The failure for coins that are worth too little. -/
def PlanError.ofTotal (needed available : Nat) : PlanError :=
  match Numeral.write needed, Numeral.write available with
  | .ok needed, .ok available => .insufficient needed available
  | .error cause, _ => .numeral cause
  | _, .error cause => .numeral cause

namespace Coin

/-- Whether a coin is taken before another, or is it: by amount, then by id. -/
def atMost (a b : Coin) : Bool :=
  a.amount < b.amount || (a.amount == b.amount && Order.atMost UInt8.toNat a.id b.id)

/-- The sum of the amounts of coins. -/
def total : List Coin → Nat
  | [] => 0
  | c :: rest => c.amount + total rest

end Coin

/-- The shortest part, not empty, in front of a list of coins that covers an amount. -/
def cover (needed : Nat) : List Coin → Option (Coin × List Coin)
  | [] => none
  | c :: rest =>
    if needed ≤ c.amount then some (c, [])
    else (cover (needed - c.amount) rest).map fun (d, ds) => (c, d :: ds)

namespace Plan

/-- The coins of a plan, the primary coin first. -/
def coins (p : Plan) : List Coin := p.primary :: p.others

/-- The amount that targets and a fee need. -/
def needed (targets : List Target) (fee : Nat) : Nat :=
  targets.foldr (fun t sum => t.amount.toNat + sum) fee

/-- The plan that pays for targets and a fee. -/
def make (available : List Coin) (targets : List Target) (changePuzzleHash : Bytes) (fee : Int) :
    Except PlanError Plan :=
  if fee < 0 then .error (.ofFee fee)
  else if targets.any fun t => decide (t.amount < 0) then .error .negativeTarget
  else if available.isEmpty then .error .noCoins
  else
    let needed := needed targets fee.toNat
    match cover needed (available.mergeSort Coin.atMost) with
    | none => .error (.ofTotal needed (Coin.total available))
    | some (primary, others) => .ok {
        primary, others, targets, changePuzzleHash
        change := Coin.total (primary :: others) - needed
        fee := fee.toNat }

/-- The document of a plan. -/
def toDocument (p : Plan) : Value :=
  .object [
    ("coins", .list (p.coins.map Coin.toDocument)),
    ("targets", .list (p.targets.map fun t =>
      .object [("puzzle_hash", t.puzzleHash.toValue), ("amount", .int t.amount)])),
    ("change_puzzle_hash", p.changePuzzleHash.toValue),
    ("change", .int p.change),
    ("fee", .int p.fee)]

end Plan

end CoinPuzzles
