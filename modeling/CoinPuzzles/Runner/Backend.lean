import CoinPuzzles.Bytes.Hex
import CoinPuzzles.Runner.Session
import CoinPuzzles.Text.Utf8
import CoinPuzzles.Value.JsonReader

/-!
# Runner/Backend — a tool on this machine, or a service elsewhere

Two kinds of runners: a command line tool, which reads both texts from files and writes its result,
and a service, which takes and returns a JSON document.  Here is what each is sent and how what
comes back is judged; starting the tool and reaching the service happen outside.
-/

namespace CoinPuzzles

/-- A number of seconds, as given. -/
inductive Seconds where
  | whole (n : Int)
  | real (x : Binary64)
deriving DecidableEq

/-- The text of a number of seconds. -/
def Seconds.text : Seconds → String
  | .whole n => toString n
  | .real x => x.toText

/-- Writes a number of seconds. -/
def Seconds.write : Seconds → Except NumeralError String
  | .whole n => Numeral.write n
  | .real x => .ok x.toText

/-- The flags that make the tool read and write hexadecimal text. -/
def defaultFlags : List String := ["--hex", "--dump"]

/-- A hexadecimal text without its mark. -/
def unmarked (text : String) : String := String.ofList (Bytes.unmark text.toList)

/-- Judges the output of a runner: a text that starts with a word of failure is one, anything else
has to be hexadecimal. -/
def checkedOutput (source output : String) : Except ExecutionError String :=
  let result := Bytes.unmark (Text.trim output.toList)
  if "FAIL".toList.isPrefixOf result then
    .error (.reportedFailure source (String.ofList result))
  else
    match Bytes.ofHex? (String.ofList result) with
    | some _ => .ok (String.ofList result)
    | none => .error (.malformedOutput source (String.ofList (output.toList.take 120)))

/-! ## The tool -/

/-- The tool: its path and how long it may take. -/
structure Tool where
  path : String
  timeout : Seconds
deriving DecidableEq

/-- What the tool is started with; the names of the two files come after the command. -/
structure ToolRequest where
  command : List String
  programFile : String
  environmentFile : String
  timeout : Seconds

/-- What came of starting the tool. -/
inductive ToolOutcome where
  | notFound
  /-- The tool is there and is not started: it may not be run, its command is none, or there is no
  room for the two files. -/
  | notStarted (reason : String)
  /-- The time that it may take is none that the system can wait for: it is infinite, too long or no
  number. -/
  | unusableTimeout
  | timedOut
  /-- One of its outputs is no text. -/
  | undecodable
  | finished (status : Int) (output errors : String)

/-- What the end of the tool comes to: both of its outputs are read as texts, whatever the status,
their line ends unified. -/
def ToolOutcome.ended (status : Int) (output errors : Bytes) : ToolOutcome :=
  match Text.ofFile? output, Text.ofFile? errors with
  | some output, some errors => .finished status output errors
  | _, _ => .undecodable

namespace Tool

/-- The request for a call. -/
def request (t : Tool) (flags : List String) (call : Call) : ToolRequest :=
  ⟨t.path :: flags, unmarked call.program, unmarked call.environment, t.timeout⟩

/-- The result of a call. -/
def judge (t : Tool) : ToolOutcome → Except ExecutionError String
  | .notFound => .error (.runnerNotFound t.path)
  | .notStarted reason => .error (.notStarted reason)
  | .unusableTimeout => .error .unusableTimeout
  | .timedOut =>
    match t.timeout.write with
    | .ok seconds => .error (.timedOut seconds)
    | .error cause => .error (.numeral cause)
  | .undecodable => .error .undecodableOutput
  | .finished status output errors =>
    if status = 0 then checkedOutput "brun" output
    else
      let errors := Text.trim errors.toList
      .error (.exited status (String.ofList
        (if errors.isEmpty then Text.trim output.toList else errors)))

end Tool

/-! ## The service -/

/-- The service: its address and how long it may take. -/
structure Service where
  url : String
  timeout : Seconds
deriving DecidableEq

/-- What the service is sent. -/
structure ServiceRequest where
  url : String
  program : String
  environment : String
  flags : List String
  timeout : Seconds

/-- What came of reaching the service. -/
inductive ServiceOutcome where
  | failed
  /-- The request is not sent, for a reason that is no failure to reach the service. -/
  | notSent (reason : String)
  /-- The time that it may take is none that the system can wait for. -/
  | unusableTimeout
  | responded (status : Int) (body : String)

namespace Service

/-- The request for a call. -/
def request (s : Service) (flags : List String) (call : Call) : ServiceRequest :=
  ⟨s.url, unmarked call.program, unmarked call.environment, flags, s.timeout⟩

/-- The result in the document that the service answers with. -/
def judgeDocument : Value → Except ExecutionError String
  | .map entries =>
    let error := (Value.find? "error" entries).getD .null
    if error.truthy then .error (.serviceError error.display)
    else
      match Value.find? "result" entries with
      | some (.text output) => checkedOutput "Execution service" output
      | _ => .error .missingResult
  | _ => .error .unexpectedDocument

/-- The result of a call. -/
def judge (s : Service) : ServiceOutcome → Except ExecutionError String
  | .failed => .error (.unreachable s.url)
  | .notSent reason => .error (.notStarted reason)
  | .unusableTimeout => .error .unusableTimeout
  | .responded status body =>
    if status < 400 ∨ 600 ≤ status then
      match Json.read body with
      | .ok document => judgeDocument document
      | .error .tooNested => .error .nestedJson
      | .error _ => .error .malformedJson
    else .error (.httpStatus status)

end Service

/-! ## Either -/

/-- A way to run programs. -/
inductive Backend where
  | tool (t : Tool)
  | service (s : Service)
deriving DecidableEq

/-- What a backend is sent for a call. -/
inductive Request where
  | tool (q : ToolRequest)
  | service (q : ServiceRequest)

/-- What the outside answers when a runner is used. -/
structure Outside where
  tool : ToolRequest → ToolOutcome
  service : ServiceRequest → ServiceOutcome

namespace Backend

/-- The request for a call, with the default flags. -/
def request (b : Backend) (call : Call) : Request :=
  match b with
  | tool t => .tool (t.request defaultFlags call)
  | service s => .service (s.request defaultFlags call)

/-- The runner of a backend, with the default flags. -/
def runner (b : Backend) (outside : Outside) : Runner :=
  .pure fun call =>
    match b with
    | tool t => t.judge (outside.tool (t.request defaultFlags call))
    | service s => s.judge (outside.service (s.request defaultFlags call))

end Backend

end CoinPuzzles
