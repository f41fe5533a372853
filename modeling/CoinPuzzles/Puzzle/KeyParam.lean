import CoinPuzzles.Puzzle.Node
import CoinPuzzles.Template.Names

/-!
# Puzzle/KeyParam — the parameter that identifies a puzzle

Three nestings of templates carry one: an asset its tail hash, a token its royalty address, an
identity the hash of its recovery list.  Each is found by following argument positions down the
nesting to a leaf.
-/

namespace CoinPuzzles.Node

/-- The argument of a template at a position. -/
def arg? (index : Nat) : Node → Option Node
  | template _ args _ => args[index]?
  | raw _ => none

/-- The text of a leaf. -/
def leaf? : Node → Option String
  | raw hex => some hex
  | template _ _ _ => none

/-- Whether a node is the template of a name. -/
def isTemplate (name : String) : Node → Bool
  | template n _ _ => n == name
  | raw _ => false

/-- Follows a path of template names and argument positions down to a leaf. -/
def follow : List (String × Nat) → Node → Option String
  | [], n => n.leaf?
  | (name, index) :: steps, n =>
    if n.isTemplate name then (n.arg? index).bind (follow steps) else none

/-- The way from a token to its royalty address. -/
def royaltyPath : List (String × Nat) :=
  [(Template.singletonTopLayer, 1), (Template.nftStateLayer, 3), (Template.nftOwnershipLayer, 2),
    (Template.nftTransferProgram, 1)]

/-- The way from an identity to the hash of its recovery list. -/
def recoveryPath : List (String × Nat) :=
  [(Template.singletonTopLayer, 1), (Template.didInnerPuzzle, 1)]

/-- The parameter that identifies the puzzle of a node. -/
def keyParam? (n : Node) : Option String :=
  if n.isTemplate Template.catV1 || n.isTemplate Template.catV2 then (n.arg? 1).bind leaf?
  else if n.isTemplate Template.singletonTopLayer then
    match n.arg? 1 with
    | some inner =>
      if inner.isTemplate Template.nftStateLayer then follow royaltyPath n
      else if inner.isTemplate Template.didInnerPuzzle then follow recoveryPath n
      else none
    | none => none
  else none

end CoinPuzzles.Node
