import CoinPuzzles.Bytes.Hex
import CoinPuzzles.Files.Path
import CoinPuzzles.Runner.Backend

/-!
# Settings/Basic — the settings of the program

Where templates are found, how programs are run, how many entries of a block are worked on at once,
and which network signatures are bound to.
-/

namespace CoinPuzzles

/-- The settings. -/
structure Settings where
  templates : Option Path
  executor : String
  brunPath : String
  executorUrl : Option String
  timeout : Seconds
  maxWorkers : Int
  genesisChallenge : String

/-- Why settings are refused. -/
inductive SettingsError where
  | fileNotFound (path : String)
  | invalidYaml (path : String)
  /-- The file holds no map. -/
  | notAMap (path : String)
  /-- The section of this program is no map. -/
  | sectionNotAMap (path : String)
  | unknownExecutor (name : String)
  | invalidUrl (url : String)
  /-- A service is asked for and has no address. -/
  | urlMissing
  | invalidNumber (name shown : String)
  | notPositive (name shown : String)
  | invalidChallenge (text : String)
  | challengeSize
  /-- A backend is asked for that has no address. -/
  | backendUrlMissing
deriving DecidableEq

/-- The wording of a refusal. -/
def SettingsError.message : SettingsError → String
  | .fileNotFound path => "Config file not found: " ++ path
  | .invalidYaml path => "Invalid YAML in config file " ++ path ++ ":"
  | .notAMap path =>
    "Expected " ++ path ++ " to contain a YAML object with a 'coinlens' section"
  | .sectionNotAMap path => "Expected 'coinlens' to be a mapping in " ++ path
  | .unknownExecutor name =>
    "Unknown executor " ++ Text.quotedString name ++ "; expected one of brun, http"
  | .invalidUrl url => "Invalid executor URL: " ++ url
  | .urlMissing => "executor_url (COINLENS_EXECUTOR_URL) is required for the http executor"
  | .invalidNumber name shown => "Invalid " ++ name ++ ": " ++ shown
  | .notPositive name shown => name ++ " must be positive, got " ++ shown
  | .invalidChallenge text => "Invalid genesis challenge: " ++ text
  | .challengeSize => "genesis_challenge must be 32 bytes of hex"
  | .backendUrlMissing => "executor_url is required when executor is 'http'"

namespace Settings

/-- The challenge of the main network. -/
def mainnetChallenge : String :=
  "ccd5bb71183532bff220ba46c268991a3ff07eb358e8255a65c30a2dce0e5fbb"

/-- The bytes of the challenge. -/
def genesisBytes (s : Settings) : Bytes := (Bytes.hexPairs? s.genesisChallenge.toList).getD []

/-- The backend that the settings ask for. -/
def backend (s : Settings) : Except SettingsError Backend :=
  if s.executor = "http" then
    match s.executorUrl with
    | some url => if url = "" then .error .backendUrlMissing else .ok (.service ⟨url, s.timeout⟩)
    | none => .error .backendUrlMissing
  else .ok (.tool ⟨s.brunPath, s.timeout⟩)

end Settings

end CoinPuzzles
