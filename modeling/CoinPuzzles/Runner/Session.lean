import CoinPuzzles.Number.Numeral

/-!
# Runner/Session — computations that consult a program runner

Programs are run elsewhere: a runner is asked with a program and an environment and answers with
the result, all as hexadecimal text, or with a failure.  Its answer may depend on what it was asked
before.  A session is a computation that asks a runner; it leaves the list of what it asked, also
when it fails.  `runFrom` is the view of a session: `runFrom_bind` and `runFrom_ask` say what each
step does to the outcome and to the list.
-/

namespace CoinPuzzles

/-- What a runner is asked: a program and its environment. -/
structure Call where
  program : String
  environment : String
deriving DecidableEq

/-- Why a runner has no result. -/
inductive ExecutionError where
  /-- A refusal in the runner's own words. -/
  | refused (message : String)
  /-- The program of the runner does not exist. -/
  | runnerNotFound (path : String)
  /-- The runner is not started, or the service not asked, for a reason that stands for itself. -/
  | notStarted (reason : String)
  /-- The time that the runner may take is none that can be waited for. -/
  | unusableTimeout
  | timedOut (seconds : String)
  /-- The time that the runner has taken has too many digits to be written. -/
  | numeral (cause : NumeralError)
  /-- The runner's output is no text. -/
  | undecodableOutput
  /-- The runner ended with a status other than zero. -/
  | exited (status : Int) (output : String)
  /-- The runner's output says that the program failed. -/
  | reportedFailure (source output : String)
  /-- The runner's output is no hexadecimal text. -/
  | malformedOutput (source output : String)
  | unreachable (url : String)
  /-- The service answered with a status other than success. -/
  | httpStatus (status : Int)
  /-- The service's answer is no document. -/
  | malformedJson
  /-- The service's answer is nested too deeply to be read. -/
  | nestedJson
  /-- The service's answer is a document, but no map. -/
  | unexpectedDocument
  /-- The service's answer names an error. -/
  | serviceError (text : String)
  /-- The service's answer has no result. -/
  | missingResult
deriving DecidableEq

/-- The wording of a failure. -/
def ExecutionError.message : ExecutionError → String
  | .refused message => message
  | .runnerNotFound path =>
    "Program runner " ++ Text.quotedString path ++
      " not found; install clvm_tools or set COINLENS_BRUN_PATH."
  | .notStarted reason => reason
  | .unusableTimeout => "the time that the runner may take cannot be waited for"
  | .timedOut seconds => "Program execution timed out after " ++ seconds ++ "s"
  | .numeral cause => cause.message
  | .undecodableOutput => "the output of the program runner is not in UTF-8"
  | .exited _ output => "Program execution failed: " ++ output
  | .reportedFailure source output => source ++ " reported a failure: " ++ output
  | .malformedOutput source output =>
    source ++ " returned malformed output: " ++ Text.quotedString output
  | .unreachable url =>
    "Execution service at " ++ url ++ " is unreachable; check COINLENS_EXECUTOR_URL."
  | .httpStatus status => "Execution service returned HTTP " ++ toString status
  | .malformedJson => "Execution service returned malformed JSON"
  | .nestedJson => "the answer of the execution service is nested too deeply"
  | .unexpectedDocument => "Execution service returned an unexpected document"
  | .serviceError text => "Execution service error: " ++ text
  | .missingResult => "Execution service response is missing 'result'"

/-- Whether a failure is reported as one of running a program.  The others come up underneath, where
the runner is started, its time is set, its output is decoded or its answer is read, and are passed
on as they are. -/
def ExecutionError.isReported : ExecutionError → Bool
  | .notStarted _ => false
  | .unusableTimeout => false
  | .numeral _ => false
  | .undecodableOutput => false
  | .nestedJson => false
  | _ => true

/-- A runner: its answer to a call, given the calls before. -/
structure Runner where
  answer : List Call → Call → Except ExecutionError String

/-- A runner whose answer depends on the call alone. -/
def Runner.pure (f : Call → Except ExecutionError String) : Runner := ⟨fun _ call => f call⟩

/-- A computation that asks a runner and may fail with `ε`. -/
abbrev Session (ε : Type) := ExceptT ε (StateM (List Call))

namespace Session

/-- Runs a session after earlier calls: its outcome, and all calls. -/
def runFrom {ε α : Type} (s : Session ε α) (earlier : List Call) : Except ε α × List Call :=
  (ExceptT.run s).run earlier

/-- Runs a session from the start: its outcome and the calls it made. -/
def outcome {ε α : Type} (s : Session ε α) : Except ε α × List Call := s.runFrom []

/-- The session with its failures renamed. -/
def mapError {ε ε' α : Type} (f : ε → ε') (s : Session ε α) : Session ε' α := ExceptT.adapt f s

/-- The session that asks nothing. -/
def ofExcept {ε α : Type} : Except ε α → Session ε α
  | .ok a => pure a
  | .error e => throw e

/-! ## Running the steps of a session -/

variable {ε ε' α β : Type}

@[simp] theorem runFrom_pure (a : α) (earlier : List Call) :
    runFrom (pure a : Session ε α) earlier = (.ok a, earlier) := rfl

theorem runFrom_bind (s : Session ε α) (f : α → Session ε β) (earlier : List Call) :
    runFrom (s >>= f) earlier =
      match runFrom s earlier with
      | (.ok a, calls) => runFrom (f a) calls
      | (.error e, calls) => (.error e, calls) := by
  change StateT.run (ExceptT.run s >>= ExceptT.bindCont f) earlier = _
  rw [StateT.run_bind, runFrom]
  obtain ⟨r, calls⟩ := (ExceptT.run s).run earlier
  cases r <;> rfl

@[simp] theorem runFrom_ofExcept (r : Except ε α) (earlier : List Call) :
    runFrom (ofExcept r) earlier = (r, earlier) := by
  cases r <;> rfl

@[simp] theorem runFrom_mapError (f : ε → ε') (s : Session ε α) (earlier : List Call) :
    runFrom (s.mapError f) earlier =
      ((runFrom s earlier).1.mapError f, (runFrom s earlier).2) := by
  change StateT.run (Except.mapError f <$> ExceptT.run s) earlier = _
  rw [StateT.run_map]
  rfl

end Session

/-- Asks a runner. -/
def Runner.ask (r : Runner) (call : Call) : Session ExecutionError String := do
  let earlier ← get
  set (earlier ++ [call])
  Session.ofExcept (r.answer earlier call)

/-- **What a runner is asked is recorded, and its answer is the outcome.** -/
@[simp] theorem Runner.runFrom_ask (r : Runner) (call : Call) (earlier : List Call) :
    (r.ask call).runFrom earlier = (r.answer earlier call, earlier ++ [call]):=
  Session.runFrom_ofExcept (r.answer earlier call) (earlier ++ [call])

end CoinPuzzles
