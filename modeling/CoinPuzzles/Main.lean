import CoinPuzzles.Command.Run
import CoinPuzzles.Value.JsonReader

/-!
# Main — the command line

The program opens no file and starts no tool: a document on standard input says what is around it.
-/

/-- Runs the command line in the surroundings that standard input describes. -/
def main (arguments : List String) : IO UInt32 := do
  let input ← (← IO.getStdin).readToEnd
  match CoinPuzzles.Json.read input with
  | .error _ =>
    IO.eprintln "error: standard input holds no document"
    return 2
  | .ok document =>
    match CoinPuzzles.runCommandLine (.ofDocument document) arguments with
    | .ok ending =>
      IO.print ending.output
      IO.eprint ending.errors
      return UInt32.ofNat ending.status
    | .error fault =>
      IO.eprintln ("fault: " ++ fault.message)
      return 3
