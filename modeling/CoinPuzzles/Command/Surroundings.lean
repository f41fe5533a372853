import CoinPuzzles.Files.Tree
import CoinPuzzles.Runner.Backend

/-!
# Command/Surroundings — what a command finds around it

The files there are, the environment, and how the outside answers a backend.  A document can
describe all three: it maps the paths of files to their texts (of directories, to null), the
variables to their values, and says how the tool ends and what the service responds.
-/

namespace CoinPuzzles

/-- What a command finds around it. -/
structure Surroundings where
  files : FileTree
  environment : List (String × String)
  outside : Outside

namespace Surroundings

/-- A field of a document, null if it has none. -/
def fieldOf (v : Value) (name : String) : Value :=
  match v with
  | .map entries => (Value.find? name entries).getD .null
  | _ => .null

/-- The text of a value, empty for other values. -/
def textOf : Value → String
  | .text s => s
  | _ => ""

/-- The fields of a value. -/
def entriesOf : Value → List (String × Value)
  | .map entries => entries.map fun (k, v) => (textOf k, v)
  | _ => []

/-- How the tool ends. -/
def toolIn (v : Value) : ToolOutcome :=
  match fieldOf v "status" with
  | .int status =>
    .ended status (Text.utf8 (textOf (fieldOf v "output")))
      (Text.utf8 (textOf (fieldOf v "errors")))
  | _ => .notFound

/-- What the service responds. -/
def serviceIn (v : Value) : ServiceOutcome :=
  match fieldOf v "status" with
  | .int status => .responded status (textOf (fieldOf v "body"))
  | _ => .failed

/-- The surroundings that a document describes. -/
def ofDocument (v : Value) : Surroundings where
  files := {
    home := .ofText (textOf (fieldOf v "home"))
    entries := (entriesOf (fieldOf v "files")).map fun (path, content) =>
      ((Path.ofText path).names, match content with
        | .text s => some (Text.utf8 s)
        | _ => none) }
  environment := (entriesOf (fieldOf v "environment")).map fun (name, value) =>
    (name, textOf value)
  outside := ⟨fun _ => toolIn (fieldOf v "tool"), fun _ => serviceIn (fieldOf v "service")⟩

end Surroundings

end CoinPuzzles
