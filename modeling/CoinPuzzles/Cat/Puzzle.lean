import CoinPuzzles.Coin.Basic
import CoinPuzzles.Program.Curry
import CoinPuzzles.Template.Names
import CoinPuzzles.Template.Registry
import CoinPuzzles.Text.Utf8

/-!
# Cat/Puzzle — the puzzle of a newly minted asset

The tail of the asset binds it to a coin that can be spent once; the hash of the tail is the asset
id.  The inner puzzle runs the tail and pays the whole amount to a target; the asset template binds
both together.
-/

namespace CoinPuzzles

/-- Why a puzzle cannot be built. -/
inductive CatError where
  /-- The template is not one of assets. -/
  | unsupportedTemplate (name : String)
  | registry (cause : RegistryError)
  /-- A program that is built has no tree hash. -/
  | program (cause : ProgramError)
deriving DecidableEq

/-- The wording of a failure. -/
def CatError.message : CatError → String
  | .unsupportedTemplate name => "Unsupported CAT template " ++ Text.quotedString name
  | .registry cause => cause.message
  | .program cause => cause.message

/-- The programs and hashes of an asset puzzle. -/
structure CatPuzzle where
  bootstrapCoinId : Bytes
  tail : Program
  tailHash : Bytes
  inner : Program
  innerHash : Bytes
  puzzle : Program
  puzzleHash : Bytes

namespace CatPuzzle

/-- The number of the condition that creates a coin. -/
def createCoin : Int := 51

/-- The amount that makes the asset template run the tail. -/
def runTailAmount : Int := -113

/-- The templates of assets. -/
def templates : List String := [Template.catV1, Template.catV2]

/-- The inner puzzle: run the tail, and create one coin for the target with a memo. -/
def innerPuzzle (tail : Program) (target : Bytes) (amount : Int) (memo : String) : Program :=
  .quote (.ofList [
    .ofList [.ofInt createCoin, .nil, .ofInt runTailAmount, tail, .nil],
    .ofList [.ofInt createCoin, .atom target, .ofInt amount,
      .ofList [.atom target, .atom (Text.utf8 memo)]]])

/-- The asset puzzle for a bootstrap coin.  The memo is written as it stands. -/
def make (r : Registry) (bootstrapCoinId target : Bytes) (amount : Int) (memo : String)
    (template : String) : Except CatError CatPuzzle := do
  if !templates.contains template then .error (.unsupportedTemplate template)
  let genesis ← (r.get Template.genesisByCoinId).mapError .registry
  let tail := genesis.program.curry [.atom bootstrapCoinId]
  let tailHash ← tail.treeHash.mapError .program
  let inner := innerPuzzle tail target amount memo
  let innerHash ← inner.treeHash.mapError .program
  let cat ← (r.get template).mapError .registry
  let puzzle := cat.program.curry [.atom cat.hash, .atom tailHash, inner]
  let puzzleHash ← puzzle.treeHash.mapError .program
  return { bootstrapCoinId, tail, tailHash, inner, innerHash, puzzle, puzzleHash }

/-- The solution of the first spend: the coin's id, the coin itself, and the coin under the inner
puzzle, which together prove where the asset comes from. -/
def eveSolution (p : CatPuzzle) (coin : Coin) : Program :=
  .ofList [
    .nil, .nil, .atom coin.id,
    .ofList [.atom p.bootstrapCoinId, .atom p.puzzleHash, .ofInt coin.amount],
    .ofList [.atom p.bootstrapCoinId, .atom p.innerHash, .ofInt coin.amount],
    .nil, .nil]

/-- The spend of the first coin of the asset, which the bootstrap coin creates.  There is none if
the puzzle or the solution cannot be written. -/
def eveSpend (p : CatPuzzle) (amount : Int) : Except CoinError Spend := do
  let coin ← Coin.of? p.bootstrapCoinId p.puzzleHash amount
  let solution := p.eveSolution coin
  if p.puzzle.fits && solution.fits then .ok ⟨coin, p.puzzle.encode, solution.encode⟩
  else .error .oversizedAtom

end CatPuzzle

end CoinPuzzles
