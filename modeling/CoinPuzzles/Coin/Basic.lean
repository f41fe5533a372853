import CoinPuzzles.Digest.Sha256
import CoinPuzzles.Number.Numeral

/-!
# Coin/Basic — coins and their ids

A coin is the triple of the coin that created it, the hash of its puzzle and its amount; its id is
the digest of the three, the amount in its shortest two's complement form.
-/

namespace CoinPuzzles

/-- Why a triple is no coin, or a coin has no spend. -/
inductive CoinError where
  | negativeAmount (amount : Int)
  /-- The parent id or the puzzle hash has not 32 bytes. -/
  | wrongSizes
  /-- A program that spends the coin has an atom past the size limit of the codec. -/
  | oversizedAtom
deriving DecidableEq

/-- The wording of a refusal. -/
def CoinError.message : CoinError → String
  | .negativeAmount amount =>
    match Numeral.write amount with
    | .ok digits => "Coin amount must be non-negative, got " ++ digits
    | .error cause => cause.message
  | .wrongSizes => "Coin parent_coin_info and puzzle_hash must be 32 bytes"
  | .oversizedAtom => "sexp too long"

/-- A coin. -/
structure Coin where
  parent : Bytes
  puzzleHash : Bytes
  amount : Nat
  length_parent : parent.length = 32
  length_puzzleHash : puzzleHash.length = 32
deriving DecidableEq

namespace Coin

/-- The atom of an amount. -/
def amountBytes (amount : Int) : Except CoinError Bytes :=
  if amount < 0 then .error (.negativeAmount amount) else .ok (Bytes.ofUnsigned amount.toNat)

/-- The id of a triple of any byte strings. -/
def idOf (parent puzzleHash : Bytes) (amount : Nat) : Bytes :=
  Sha256.digest (parent ++ puzzleHash ++ Bytes.ofUnsigned amount)

/-- The id of a triple with an amount of either sign. -/
def idOf? (parent puzzleHash : Bytes) (amount : Int) : Except CoinError Bytes :=
  if amount < 0 then .error (.negativeAmount amount) else .ok (idOf parent puzzleHash amount.toNat)

/-- The coin of a triple. -/
def of? (parent puzzleHash : Bytes) (amount : Int) : Except CoinError Coin :=
  if h : parent.length = 32 ∧ puzzleHash.length = 32 then
    if amount < 0 then .error (.negativeAmount amount)
    else .ok ⟨parent, puzzleHash, amount.toNat, h.1, h.2⟩
  else .error .wrongSizes

/-- The id of a coin. -/
def id (c : Coin) : Bytes := idOf c.parent c.puzzleHash c.amount

@[simp] theorem length_id (c : Coin) : c.id.length = 32 := Sha256.length_digest _

end Coin

/-- A coin with the programs that spend it, both as byte strings. -/
structure Spend where
  coin : Coin
  puzzleReveal : Bytes
  solution : Bytes
deriving DecidableEq

/-- Spends under one aggregated signature; an empty signature marks an unsigned bundle. -/
structure Bundle where
  signature : Bytes
  spends : List Spend
deriving DecidableEq

end CoinPuzzles
