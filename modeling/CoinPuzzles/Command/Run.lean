import CoinPuzzles.Block.Generator
import CoinPuzzles.Coin.Document
import CoinPuzzles.Command.Invocation
import CoinPuzzles.Command.Surroundings
import CoinPuzzles.Settings.Load
import CoinPuzzles.Signing.Aggregate
import CoinPuzzles.Template.Catalogue
import CoinPuzzles.Value.JsonWriter

/-!
# Command/Run — what a command prints

A command reads the files and the environment around it, may ask a backend, and prints one document
or fails.  Most failures are refusals: they are reported on a line of their own and the program ends
with status 1.  The others are faults, which nothing in the program expects.
-/

namespace CoinPuzzles

/-- Why a command prints nothing. -/
inductive CommandError where
  | negativeAmount
  | noCatalogue
  | fileNotFound (path : String)
  | unreadableBundle (path : String) (cause : ReadError)
  | malformedBundle (path : String)
  /-- The document holds no bundle. -/
  | noBundle (path : String)
  | invalidBundle (path : String) (cause : DocumentError)
  | hex (cause : HexError)
  | settings (cause : LoadError)
  | catalogue (cause : CatalogueError)
  | puzzle (cause : PuzzleTextError)
  | generator (cause : GeneratorError)
  | signing (cause : SigningError)
  /-- A path starts with the home of an unknown user. -/
  | unknownHome
  /-- A file that is there has no text. -/
  | unreadable (cause : ReadError)
  /-- A number has too many digits. -/
  | numeral (cause : NumeralError)
  /-- The document of a bundle is nested too deeply to be read. -/
  | nestedBundle (path : String)
deriving DecidableEq

namespace CommandError

/-- The wording of a failure. -/
def message : CommandError → String
  | negativeAmount => "--amount must be non-negative"
  | noCatalogue => "A template catalogue is required; pass --templates or set COINLENS_TEMPLATES"
  | fileNotFound path => "File not found: " ++ path
  | unreadableBundle path cause =>
    "Cannot read " ++ path ++ ": " ++ cause.message (Text.quotedString path)
  | malformedBundle path => path ++ " is not valid JSON:"
  | noBundle path => path ++ " does not contain a spend bundle object"
  | invalidBundle path cause => path ++ " is not a valid spend bundle: " ++ cause.message
  | hex cause => cause.message
  | settings cause => cause.message
  | catalogue cause => cause.message
  | puzzle cause => cause.message
  | generator cause => cause.message
  | signing cause => cause.message
  | unknownHome => "Could not determine home directory."
  | unreadable cause => cause.message ""
  | numeral cause => cause.message
  | nestedBundle path => path ++ " is nested too deeply"

/-- Whether a failure is a fault. -/
def isFault : CommandError → Bool
  | unreadableBundle _ .notText => true
  | unreadableBundle _ .embeddedNul => true
  | invalidBundle _ .infinite => true
  | invalidBundle _ .wrongShape => true
  | invalidBundle _ .notAMap => true
  | settings (.settings _) => false
  | settings _ => true
  | catalogue .unknownHome => true
  | catalogue (.unreadable _) => true
  | catalogue (.yaml _ .malformed) => false
  | catalogue (.yaml _ _) => true
  | catalogue (.numeral _) => true
  | puzzle (.assembly .tooNested) => true
  | puzzle .oversizedAtom => true
  | generator (.execution cause) => !cause.isReported
  | generator (.block (.coin _)) => true
  | generator (.block .noWorkers) => true
  | signing .notReady => true
  | unknownHome => true
  | unreadable _ => true
  | numeral _ => true
  | nestedBundle _ => true
  | _ => false

/-- Whether a message announces a detail that is not given; its line stays open. -/
def isOpen : CommandError → Bool
  | malformedBundle _ => true
  | settings (.settings (.invalidYaml _)) => true
  | catalogue (.yaml _ .malformed) => true
  | _ => false

/-- The line that reports a refusal. -/
def line (e : CommandError) : String :=
  "error: " ++ e.message ++ if e.isOpen then "" else "\n"

end CommandError

/-- What a command leaves: what it sent to a backend, and the text it prints. -/
structure Run where
  requests : List Request
  printed : Except CommandError String

namespace Command

/-- A document and the end of its last line. -/
def print (pretty : Bool) (document : Value) : String :=
  (if pretty then Json.indented 0 document else Json.compact document) ++ "\n"

/-- The path that a text names, with the home directory in place of a tilde. -/
def pathOf (files : FileTree) (text : String) : Except CommandError Path :=
  match (Path.ofText text).expandHome? files.home with
  | some p => .ok p
  | none => .error .unknownHome

/-- The value that a word gives: after an at sign, it names a file whose text is meant. -/
def valueOf (files : FileTree) (word : String) : Except CommandError String :=
  match word.toList with
  | '@' :: name => do
    let p ← pathOf files (String.ofList name)
    if files.exists? p then
      let text ← (files.readText p).mapError .unreadable
      return String.ofList (Text.trim text.toList)
    else .error (.fileNotFound p.toText)
  | _ => .ok word

/-- The registry that the settings name. -/
def registryOf (files : FileTree) (settings : Settings) : Except CommandError Registry :=
  match settings.templates with
  | none => .error .noCatalogue
  | some p => (Catalogue.load Yaml.read files p).mapError .catalogue

/-! ## Coins and bundles -/

/-- The line with the id of a coin. -/
def coinLine (parent puzzleHash : String) (amount : Int) : Except CommandError String :=
  if amount < 0 then .error .negativeAmount
  else do
    let parent ← (Bytes.ofHexSized 32 parent).mapError .hex
    let puzzleHash ← (Bytes.ofHexSized 32 puzzleHash).mapError .hex
    return Bytes.toMarkedHex (Coin.idOf parent puzzleHash amount.toNat) ++ "\n"

/-- The bundle in a document: the answer of a node holds it in a field. -/
def unwrap (document : Value) : Value :=
  match document with
  | .map entries => (Value.find? "spend_bundle" entries).getD document
  | _ => document

/-- The bundle in the file at a path. -/
def readBundle (files : FileTree) (text : String) : Except CommandError Bundle := do
  let p ← pathOf files text
  let path := p.toText
  let content ← (files.readText p).mapError (.unreadableBundle path)
  let document ← (Json.read content).mapError fun
    | .malformed => .malformedBundle path
    | .numeral cause => .numeral cause
    | .tooNested => .nestedBundle path
  match unwrap document with
  | .map entries => (Bundle.ofDocument (.map entries)).mapError (.invalidBundle path)
  | _ => .error (.noBundle path)

/-- The document of the bundles in files, merged. -/
def combined (files : FileTree) (paths : List String) : Except CommandError Value := do
  let bundles ← paths.mapM (readBundle files)
  return (← (combine bls .ready (bundles.map some)).mapError .signing).toDocument

/-! ## Puzzles and blocks -/

/-- The settings that hold for an invocation. -/
def settingsFor (s : Surroundings) (i : Invocation) : Except CommandError Settings :=
  let overrides := [("templates", (i.templates.map Value.text).getD .null)]
  (Settings.load Yaml.read s.files i.config overrides s.environment).mapError .settings

/-- The document of a puzzle. -/
def puzzleDocument (files : FileTree) (settings : Settings) (puzzle : String) :
    Except CommandError Value := do
  let registry ← registryOf files settings
  let text ← valueOf files puzzle
  return (← (CoinPuzzles.parsePuzzle registry text).mapError .puzzle).toDocument

/-- The document of the coins that a block spends. -/
def blockDocument (files : FileTree) (settings : Settings) (runner : Runner) (generator : String)
    (references : List String) : Session CommandError Value := do
  let registry ← Session.ofExcept (registryOf files settings)
  let generator ← Session.ofExcept (valueOf files generator)
  let references ← Session.ofExcept (references.mapM (valueOf files))
  let coins ← (reportGenerator registry runner settings.maxWorkers generator references).mapError
    CommandError.generator
  let documents ← Session.ofExcept ((coins.mapM CoinInfo.toDocument).mapError .numeral)
  return .list documents

end Command

namespace Run

/-- A run that asked nothing. -/
def silent (printed : Except CommandError String) : Run := ⟨[], printed⟩

/-- The run on a block. -/
def onBlock (s : Surroundings) (pretty : Bool) (settings : Settings) (backend : Backend)
    (generator : String) (references : List String) : Run :=
  let session := Command.blockDocument s.files settings (backend.runner s.outside) generator
    references
  let (document, calls) := session.outcome
  ⟨calls.map backend.request, document.map (Command.print pretty)⟩

end Run

namespace Invocation

/-- Runs a command. -/
def run (s : Surroundings) (i : Invocation) : Run :=
  match i.command with
  | .coinName parent puzzleHash amount => .silent (Command.coinLine parent puzzleHash amount)
  | .combineBundles paths =>
    .silent ((Command.combined s.files paths).map (Command.print i.pretty))
  | .parsePuzzle puzzle =>
    .silent (do
      let settings ← Command.settingsFor s i
      let document ← Command.puzzleDocument s.files settings puzzle
      return Command.print i.pretty document)
  | .parseBlock generator references =>
    match Command.settingsFor s i with
    | .error e => .silent (.error e)
    | .ok settings =>
      match settings.backend with
      | .error cause => .silent (.error (.settings (.settings cause)))
      | .ok backend => .onBlock s i.pretty settings backend generator references

end Invocation

/-! ## How the program ends -/

/-- How the program ends: its status, its two outputs and what it sent to a backend. -/
structure Ending where
  status : Nat
  output : String
  errors : String
  requests : List Request

/-- Runs a command line; a fault has no ending. -/
def runCommandLine (s : Surroundings) (arguments : List String) : Except CommandError Ending :=
  match Invocation.ofArguments arguments with
  | .error .helpWanted => .ok ⟨0, UsageError.helpWanted.message ++ "\n", "", []⟩
  | .error misuse => .ok ⟨2, "", "error: " ++ misuse.message ++ "\n", []⟩
  | .ok invocation =>
    let run := invocation.run s
    match run.printed with
    | .ok text => .ok ⟨0, text, "", run.requests⟩
    | .error e => if e.isFault then .error e else .ok ⟨1, "", e.line, run.requests⟩

end CoinPuzzles
