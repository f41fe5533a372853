import CoinPuzzles.Command.Options
import CoinPuzzles.Number.Numeral

/-!
# Command/Invocation — the commands

Four commands: a puzzle is taken apart, the coins spent in a block are listed, the id of a coin is
computed, bundles are merged into one.  Options before the name of the command hold for all.
-/

namespace CoinPuzzles

/-- A command with its operands. -/
inductive Command where
  | parsePuzzle (puzzle : String)
  | parseBlock (generator : String) (references : List String)
  | coinName (parent puzzleHash : String) (amount : Int)
  | combineBundles (paths : List String)
deriving DecidableEq

/-- A command and how it is to be run: where settings and templates are, and whether documents are
indented. -/
structure Invocation where
  config : Option String
  templates : Option String
  pretty : Bool
  command : Command
deriving DecidableEq

namespace Command

/-- The options that stand before the name of a command. -/
def commonOptions : Options := ⟨["--config", "--templates"], ["--verbose", "--pretty"]⟩

/-- No options. -/
def noOptions : Options := ⟨[], []⟩

/-- The options of a block. -/
def blockOptions : Options := ⟨["--generator", "--ref"], []⟩

/-- The options of a coin. -/
def coinOptions : Options := ⟨["--parent", "--puzzle-hash", "--amount"], []⟩

/-- The options of a command that takes no words. -/
def optionsOnly (o : Options) (command : String) (arguments : List String) :
    Except UsageError Given := do
  let (given, rest) ← o.take arguments
  if rest.isEmpty then return given else .error (.wrongWords command)

/-- The integer that an option gives. -/
def integer (option text : String) : Except UsageError Int :=
  (Numeral.read text).mapError fun _ => .invalidNumber option text

/-- The words of a command that takes no options. -/
def wordsOnly (arguments : List String) : Except UsageError (List String) := do
  let (_, rest) ← noOptions.take arguments
  noOptions.words rest

/-- The command of a name and what follows it. -/
def ofArguments (name : String) (arguments : List String) : Except UsageError Command :=
  match name with
  | "parse-puzzle" => do
    match ← wordsOnly arguments with
    | [puzzle] => return parsePuzzle puzzle
    | _ => .error (.wrongWords name)
  | "parse-block" => do
    let given ← optionsOnly blockOptions name arguments
    return parseBlock (← given.require "--generator") (given.all "--ref")
  | "coin-name" => do
    let given ← optionsOnly coinOptions name arguments
    let _ ← (given.all "--amount").mapM (integer "--amount")
    let amount ← integer "--amount" (← given.require "--amount")
    return coinName (← given.require "--parent") (← given.require "--puzzle-hash") amount
  | "combine-bundles" => do
    match ← wordsOnly arguments with
    | [] => .error (.wrongWords name)
    | paths => return combineBundles paths
  | name => .error (.unknownCommand name)

end Command

/-- The invocation that a command line spells. -/
def Invocation.ofArguments (arguments : List String) : Except UsageError Invocation := do
  let (given, rest) ← Command.commonOptions.take arguments
  let rest := if rest.head? == some "--" then rest.tail else rest
  match rest with
  | [] => .error .missingCommand
  | name :: rest =>
    return {
      config := given.last? "--config"
      templates := given.last? "--templates"
      pretty := given.flags.contains "--pretty"
      command := ← Command.ofArguments name rest }

end CoinPuzzles
