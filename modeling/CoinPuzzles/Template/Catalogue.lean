import CoinPuzzles.Files.Tree
import CoinPuzzles.Template.Registry
import CoinPuzzles.Yaml.Reader

/-!
# Template/Catalogue — registries kept in files

A catalogue is a document with a map of names to hexadecimal texts, or a directory with one file of
hexadecimal text for every name.  How a text is read as a document is a parameter.
-/

namespace CoinPuzzles

/-- Why a path leads to no registry. -/
inductive CatalogueError where
  | registry (cause : RegistryError)
  /-- The path starts with the home of an unknown user. -/
  | unknownHome
  | missing (path : String)
  /-- A file is no text, or not even a file. -/
  | unreadable (cause : ReadError)
  | yaml (path : String) (cause : Yaml.YamlError)
  /-- A key of the map is a number with too many digits. -/
  | numeral (cause : NumeralError)
  /-- The document is no map. -/
  | notAMap (path : String)
  /-- The map of templates is none, or empty. -/
  | noTemplates (path : String)
  /-- No file in the directory is one of a template. -/
  | noFiles (path : String)
deriving DecidableEq

/-- The wording of a refusal. -/
def CatalogueError.message : CatalogueError → String
  | .registry cause => cause.message
  | .unknownHome => "Could not determine home directory."
  | .missing path => "Template catalogue does not exist: " ++ path
  | .unreadable cause => cause.message ""
  | .yaml path cause =>
    match cause with
    | .malformed => "Failed to parse template catalogue " ++ path ++ ":"
    | cause => cause.message
  | .numeral cause => cause.message
  | .notAMap path => "Template catalogue " ++ path ++ " must contain a mapping"
  | .noTemplates path => "Template catalogue " ++ path ++ " must define at least one template"
  | .noFiles path => "No template hex files found in " ++ path

namespace Catalogue

/-- The endings of the files of templates. -/
def endings : List String := [".clsp.hex", ".clvm.hex", ".hex"]

/-- The name of the template that a file holds. -/
def templateName? (file : String) : Option String :=
  endings.findSome? fun ending =>
    if ending.toList.isSuffixOf file.toList then
      some (String.ofList (file.toList.take (file.length - ending.length)))
    else none

/-- The named texts of a document. -/
def ofDocument (path : String) : Value → Except CatalogueError (List (String × Value))
  | .map entries =>
    match (Value.find? "templates" entries).getD (.map entries) with
    | .map (e :: es) => (e :: es).mapM fun (k, v) => return (← k.write.mapError .numeral, v)
    | _ => .error (.noTemplates path)
  | _ => .error (.notAMap path)

/-- The named texts of the files of a directory. -/
def ofFiles (path : String) (files : List (String × Bytes)) :
    Except CatalogueError (List (String × Value)) := do
  let pairs ← files.filterMapM fun (file, content) =>
    match templateName? file with
    | none => .ok none
    | some name =>
      match Text.ofFile? content with
      | some s => .ok (some (name, Value.text (String.ofList (Text.trim s.toList))))
      | none => .error (.unreadable .notText)
  if pairs.isEmpty then .error (.noFiles path) else return pairs

/-- The named texts that a path leads to. -/
def textsAt (read : Yaml.Reader) (files : FileTree) (p : Path) :
    Except CatalogueError (List (String × Value)) :=
  match files.find p with
  | .directory entries => ofFiles p.toText entries
  | .file content =>
    match Text.ofFile? content with
    | none => .error (.unreadable .notText)
    | some s =>
      match read s with
      | .error cause => .error (.yaml p.toText cause)
      | .ok document => ofDocument p.toText document
  | .missing => .error (.missing p.toText)
  | .belowFile => .error (.missing p.toText)

/-- The registry that a path leads to. -/
def load (read : Yaml.Reader) (files : FileTree) (p : Path) : Except CatalogueError Registry := do
  match p.expandHome? files.home with
  | none => .error .unknownHome
  | some p => (Registry.ofTexts (← textsAt read files p)).mapError .registry

end Catalogue

end CoinPuzzles
