import CoinPuzzles.Files.Tree
import CoinPuzzles.Settings.Basic
import CoinPuzzles.Settings.Url
import CoinPuzzles.Yaml.Reader

/-!
# Settings/Load — settings from three sources

Each setting is taken from the caller, else from the environment, else from a section of a file;
where none has it, a default is used.  The first source that has a setting decides it alone, also
if its value is refused.  How the text of the file is read as a document is a parameter.
-/

namespace CoinPuzzles

/-- Why settings are not loaded. -/
inductive LoadError where
  | settings (cause : SettingsError)
  /-- A path starts with the home of an unknown user. -/
  | unknownHome
  /-- The file is no text, or a directory. -/
  | unreadable (cause : ReadError)
  /-- A value in the file is not one of its form. -/
  | yaml (cause : Yaml.YamlError)
  | url (cause : Url.UrlError)
  /-- The address is a value other than a text or a byte string. -/
  | urlNotText
  /-- The address is a byte string with a byte that is no ASCII. -/
  | urlNotAscii
  /-- A number is too large for its type. -/
  | overflow
  /-- A number that has to be written has too many digits. -/
  | numeral (cause : NumeralError)
deriving DecidableEq

/-- The wording of a refusal. -/
def LoadError.message : LoadError → String
  | .settings cause => cause.message
  | .unknownHome => "Could not determine home directory."
  | .unreadable cause => cause.message ""
  | .yaml cause => cause.message
  | .url cause => cause.message
  | .urlNotText => "the address is not a text"
  | .urlNotAscii => "the address is not in ASCII"
  | .overflow => "the number is too large"
  | .numeral cause => cause.message

/-- The three sources of settings. -/
structure Sources where
  /-- What the caller gives, null if nothing. -/
  overrides : List (String × Value)
  environment : List (String × String)
  /-- The section of the file. -/
  fileSection : List (Value × Value)

namespace Sources

/-- A value that is there and not null. -/
def present? : Option Value → Option Value
  | some .null => none
  | v => v

/-- The value of a setting in the first source that has it. -/
def pick (s : Sources) (key name : String) : Option Value :=
  (present? ((s.overrides.find? (·.1 == key)).map (·.2))).orElse fun _ =>
    ((s.environment.find? (·.1 == name)).map fun e => Value.text e.2).orElse fun _ =>
      present? (Value.find? key s.fileSection)

end Sources

/-- The seven settings as the first source that has them gives them. -/
structure RawSettings where
  templates : Option Value
  executor : Option Value
  brunPath : Option Value
  executorUrl : Option Value
  timeout : Option Value
  maxWorkers : Option Value
  genesisChallenge : Option Value

/-- The settings that the sources give. -/
def Sources.raw (s : Sources) : RawSettings where
  templates := s.pick "templates" "COINLENS_TEMPLATES"
  executor := s.pick "executor" "COINLENS_EXECUTOR"
  brunPath := s.pick "brun_path" "COINLENS_BRUN_PATH"
  executorUrl := s.pick "executor_url" "COINLENS_EXECUTOR_URL"
  timeout := s.pick "timeout_seconds" "COINLENS_TIMEOUT"
  maxWorkers := s.pick "max_workers" "COINLENS_MAX_WORKERS"
  genesisChallenge := s.pick "genesis_challenge" "COINLENS_GENESIS_CHALLENGE"

namespace RawSettings

/-- The text of a value. -/
def shown (v : Value) : Except LoadError String := v.write.mapError .numeral

/-- The text of a setting, or a default. -/
def textOr (default : String) : Option Value → Except LoadError String
  | none => .ok default
  | some v => shown v

/-- Refuses a value with a message that shows it. -/
def refuse {α : Type} (v : Value) (cause : String → SettingsError) : Except LoadError α := do
  .error (.settings (cause (← shown v)))

/-- The kinds of executors. -/
def executorKinds : List String := ["brun", "http"]

/-- The kind of executor, in lower case. -/
def checkExecutor (v : Option Value) : Except LoadError String := do
  let name := String.ofList (Text.lower (← textOr "brun" v).toList)
  if executorKinds.contains name then return name
  else .error (.settings (.unknownExecutor name))

/-- The address of the service; a value that counts as false is none. -/
def checkUrl : Option Value → Except LoadError (Option String)
  | none => .ok none
  | some v =>
    if !v.truthy then .ok none
    else
      match v with
      | .text url =>
        match Url.isService url with
        | .ok true => .ok (some url)
        | .ok false => .error (.settings (.invalidUrl url))
        | .error cause => .error (.url cause)
      | .bytes b =>
        -- a byte string is taken apart as well, but its scheme is never one of the web
        match b.toAscii?.map Url.isService with
        | none => .error .urlNotAscii
        | some (.ok _) => .error (.settings (.invalidUrl (Text.quotedBytes b)))
        | some (.error cause) => .error (.url cause)
      | _ => .error .urlNotText

/-- The path of the templates. -/
def checkTemplates (home : Path) : Option Value → Except LoadError (Option Path)
  | none => .ok none
  | some v =>
    if !v.truthy then .ok none
    else do
      match (Path.ofText (← shown v)).expandHome? home with
      | some p => return some p
      | none => .error .unknownHome

/-- A value as a floating-point number. -/
def toReal (name : String) (v : Value) : Except LoadError Binary64 :=
  let invalid : Except LoadError Binary64 := refuse v (.invalidNumber name)
  let ofInt (n : Int) : Except LoadError Binary64 :=
    match Binary64.ofInt? n with
    | some x => .ok x
    | none => .error .overflow
  match v with
  | .text s =>
    match Binary64.ofText? s with
    | some x => .ok x
    | none => invalid
  | .bytes b =>
    match b.toAscii?.bind Binary64.ofText? with
    | some x => .ok x
    | none => invalid
  | .bool b => ofInt (if b then 1 else 0)
  | .int n => ofInt n
  | .float x => .ok x
  | _ => invalid

/-- A value as an integer, its fraction cut off. -/
def toWhole (name : String) (v : Value) : Except LoadError Int :=
  let invalid : Except LoadError Int := refuse v (.invalidNumber name)
  match v with
  | .text s =>
    match Numeral.read s with
    | .ok n => .ok n
    | .error _ => invalid
  | .bytes b =>
    match Numeral.readBytes b with
    | .ok n => .ok n
    | .error _ => invalid
  | .bool b => .ok (if b then 1 else 0)
  | .int n => .ok n
  | .float (.infinite _) => .error .overflow
  | .float x =>
    match x.truncate? with
    | some n => .ok n
    | none => invalid
  | _ => invalid

/-- The number of seconds a program may take. -/
def checkTimeout : Option Value → Except LoadError Seconds
  | none => .ok (.real (.ofDecimal false 30 0))
  | some v => do
    let x ← toReal "timeout_seconds" v
    if x.isNonpositive then refuse v (.notPositive "timeout_seconds") else return .real x

/-- The number of workers. -/
def checkWorkers : Option Value → Except LoadError Int
  | none => .ok 8
  | some v => do
    let n ← toWhole "max_workers" v
    if n ≤ 0 then refuse v (.notPositive "max_workers") else return n

/-- The challenge of the network, 32 bytes in lower-case digits. -/
def checkChallenge (v : Option Value) : Except LoadError String := do
  let text ← textOr Settings.mainnetChallenge v
  let digits := match text.toList with
    | '0' :: 'x' :: rest => rest
    | s => s
  match Bytes.hexPairs? digits with
  | none => .error (.settings (.invalidChallenge text))
  | some b =>
    if b.length = 32 then return String.ofList (Text.lower digits)
    else .error (.settings .challengeSize)

/-- The settings, checked one after another. -/
def check (home : Path) (raw : RawSettings) : Except LoadError Settings := do
  let executor ← checkExecutor raw.executor
  let executorUrl ← checkUrl raw.executorUrl
  if executor = "http" ∧ executorUrl.isNone then .error (.settings .urlMissing)
  let templates ← checkTemplates home raw.templates
  let brunPath ← textOr "brun" raw.brunPath
  let timeout ← checkTimeout raw.timeout
  let maxWorkers ← checkWorkers raw.maxWorkers
  let genesisChallenge ← checkChallenge raw.genesisChallenge
  return { templates, executor, brunPath, executorUrl, timeout, maxWorkers, genesisChallenge }

end RawSettings

namespace Settings

/-- The file that is read if the caller names none. -/
def defaultFile : Path := .ofText ".coinlens.yaml"

/-- The entries of the document in a file; a document that counts as false is empty. -/
def readFile (read : Yaml.Reader) (files : FileTree) (required : Bool) (p : Path) :
    Except LoadError (List (Value × Value)) :=
  if files.exists? p then
    match files.readText p with
    | .error cause => .error (.unreadable cause)
    | .ok text =>
      match read text with
      | .error .malformed => .error (.settings (.invalidYaml p.toText))
      | .error cause => .error (.yaml cause)
      | .ok document =>
        if !document.truthy then .ok []
        else
          match document with
          | .map entries => .ok entries
          | _ => .error (.settings (.notAMap p.toText))
  else if required then .error (.settings (.fileNotFound p.toText))
  else .ok []

/-- The path of the file that is read. -/
def fileFor (home : Path) : Option String → Except LoadError Path
  | none => .ok defaultFile
  | some text =>
    match (Path.ofText text).expandHome? home with
    | some p => .ok p
    | none => .error .unknownHome

/-- The section of this program among the entries of a file. -/
def sectionOf (p : Path) (entries : List (Value × Value)) :
    Except LoadError (List (Value × Value)) :=
  match (Value.find? "coinlens" entries).getD (.map []) with
  | .map fields => .ok fields
  | _ => .error (.settings (.sectionNotAMap p.toText))

/-- Loads settings; `file` names the file to be read, which has to exist then. -/
def load (read : Yaml.Reader) (files : FileTree) (file : Option String)
    (overrides : List (String × Value)) (environment : List (String × String)) :
    Except LoadError Settings := do
  let p ← fileFor files.home file
  let entries ← readFile read files file.isSome p
  let fileSection ← sectionOf p entries
  RawSettings.check files.home (Sources.raw ⟨overrides, environment, fileSection⟩)

end Settings

end CoinPuzzles
