import CoinPuzzles.Funding.Plan
import Mathlib.Tactic.SplitIfs

/-!
# Proofs/Funding/Selection — which coins a plan takes

Coins are chosen by what has to be paid, not by whom it is paid to: plans for targets of the same
amounts differ in their targets only, and they fail alike (`Plan.make_retarget`).
-/

namespace CoinPuzzles.Plan

variable {available : List Coin} {targets targets' : List Target} {changePuzzleHash : Bytes}
  {fee : Int}

theorem needed_eq_foldr (targets : List Target) (fee : Nat) :
    needed targets fee = (targets.map (·.amount)).foldr (fun a sum => a.toNat + sum) fee := by
  rw [needed, List.foldr_map]

theorem any_negative_eq (targets : List Target) :
    (targets.any fun t => decide (t.amount < 0)) =
      (targets.map (·.amount)).any fun a => decide (a < 0) := by
  rw [List.any_map]
  rfl

/-- **Targets of the same amounts are paid by the same coins**, whoever they belong to. -/
theorem make_retarget (h : targets'.map (·.amount) = targets.map (·.amount)) :
    make available targets' changePuzzleHash fee =
      (make available targets changePuzzleHash fee).map ({ · with targets := targets' }) := by
  -- The tests and the sum read the targets through their amounts.
  have hneeded (fee : Nat) : needed targets' fee = needed targets fee := by
    rw [needed_eq_foldr, needed_eq_foldr, h]
  rw [make, make, any_negative_eq, any_negative_eq, h, hneeded]
  split_ifs
  · rfl
  · rfl
  · rfl
  · dsimp only
    cases cover (needed targets fee.toNat) (available.mergeSort Coin.atMost) <;> rfl

end CoinPuzzles.Plan
