import CoinPuzzles.Coin.Basic
import CoinPuzzles.Puzzle.KeyParam
import CoinPuzzles.Puzzle.Simplify

/-!
# Block/CoinInfo — what is known of a coin spent in a block

A block yields a list of entries `(parent puzzle amount solution)`.  Each is reported with its
puzzle taken apart, the id of its coin, and the parameter that identifies the puzzle.
-/

namespace CoinPuzzles

/-- Why an entry, or a block, has no report. -/
inductive BlockError where
  /-- The result or a puzzle is no program within the limits. -/
  | program (cause : ProgramError)
  /-- An entry has fewer than four elements. -/
  | shortEntry (size : Nat)
  /-- The parent or the amount of an entry is no atom. -/
  | notAtoms
  /-- The result of the block is no list. -/
  | notAList
  | coin (cause : CoinError)
  /-- There are entries and nobody to work on them. -/
  | noWorkers
deriving DecidableEq

/-- The wording of a refusal. -/
def BlockError.message : BlockError → String
  | .program cause => cause.message
  | .shortEntry size => "Coin spend entry has " ++ toString size ++ " elements, expected 4"
  | .notAtoms => "Coin spend parent and amount must be atoms"
  | .notAList => "Executed generator did not return a list"
  | .coin cause => cause.message
  | .noWorkers => "max_workers must be greater than 0"

/-- The report on a coin that is spent. -/
structure CoinInfo where
  parent : Bytes
  puzzle : Program
  node : Node
  amount : Nat
  solution : Program
  coinId : Bytes

namespace CoinInfo

/-- The report on an entry. -/
def ofEntry (r : Registry) (entry : Program) : Except BlockError CoinInfo :=
  match entry.elements with
  | parent :: puzzle :: amount :: solution :: _ =>
    match parent, amount with
    | .atom parent, .atom amount => do
      let puzzleHash ← puzzle.treeHash.mapError .program
      let amount := Bytes.toInt amount
      let coinId ← (Coin.idOf? parent puzzleHash amount).mapError .coin
      return ⟨parent, puzzle, simplify r puzzle, amount.toNat, solution, coinId⟩
    | _, _ => .error .notAtoms
  | few => .error (.shortEntry few.length)

/-- The document of a report.  The amount is written as a numeral, which it may be too long for. -/
def toDocument (c : CoinInfo) : Except NumeralError Value := do
  let amount ← Numeral.write c.amount
  let key := match c.node.keyParam? with
    | some key => [("key_param", Value.text key)]
    | none => []
  return .object ([
    ("parent", .text (Bytes.toMarkedHex c.parent)),
    ("puzzle", .text c.puzzle.toHex),
    ("parsed_puzzle", c.node.toDocument),
    ("amount", .text amount),
    ("solution", .text c.solution.toHex),
    ("coin_name", .text (Bytes.toMarkedHex c.coinId)),
    ("mods", .text c.node.path)] ++ key)

end CoinInfo

end CoinPuzzles
