import CoinPuzzles.Block.CoinInfo
import CoinPuzzles.Runner.Session
import CoinPuzzles.Template.Names

/-!
# Block/Generator — running the generator of a block

A generator is a program whose result lists the entries of a block.  One that refers back to other
generators is run by the registered generator module, with itself and the list of references in the
environment.
-/

namespace CoinPuzzles

/-- Why a generator has no result, or its result no reports. -/
inductive GeneratorError where
  /-- A reference is no byte string. -/
  | reference (cause : HexError)
  /-- The generator is no program. -/
  | program (cause : ProgramError)
  | registry (cause : RegistryError)
  | execution (cause : ExecutionError)
  | block (cause : BlockError)
deriving DecidableEq

/-- The wording of a failure. -/
def GeneratorError.message : GeneratorError → String
  | .reference cause => cause.message
  | .program cause => cause.message
  | .registry cause => cause.message
  | .execution cause => cause.message
  | .block cause => cause.message

/-- A program of a call has an atom past the size limit of the codec.  It is refused in the words of
a spend that cannot be written. -/
def GeneratorError.oversizedAtom : GeneratorError := .block (.coin .oversizedAtom)

/-- The environment of a generator without references: a list of the empty list. -/
def emptyEnvironment : String := "ff8080"

/-- The environment of a generator with references: both in a list, the references in a list of
their own in it. -/
def referenceEnvironment (generator : Program) (references : List Bytes) : Program :=
  .ofList [generator, .ofList [.ofList (references.map .atom)]]

/-- What the runner is asked for a generator.  With references there is no call if one of its
programs cannot be written. -/
def generatorCall (r : Registry) (generator : String) (references : List String) :
    Except GeneratorError Call :=
  if references.isEmpty then .ok ⟨generator, emptyEnvironment⟩
  else do
    let references ← references.mapM fun text => (Bytes.ofHex text).mapError .reference
    let program ← (Program.ofHex generator).mapError .program
    let module ← (r.get Template.generator).mapError .registry
    let environment := referenceEnvironment program references
    if module.program.fits && environment.fits then
      return ⟨module.program.toHex, environment.toHex⟩
    else .error .oversizedAtom

/-- The result of a generator. -/
def runGenerator (r : Registry) (runner : Runner) (generator : String)
    (references : List String) : Session GeneratorError String := do
  let call ← Session.ofExcept (generatorCall r generator references)
  (runner.ask call).mapError .execution

/-- The reports on the entries of a result, in order.  The number of workers does not matter, as
long as there is one. -/
def reportEntries (r : Registry) (workers : Int) (executed : String) :
    Except BlockError (List CoinInfo) := do
  match ← (Program.ofHex executed).mapError .program with
  | .atom _ => .error .notAList
  | .pair entries _ =>
    let entries := entries.elements
    if entries.isEmpty then return []
    else if workers ≤ 0 then .error .noWorkers
    else entries.mapM (CoinInfo.ofEntry r)

/-- The reports on the entries of a generator. -/
def reportGenerator (r : Registry) (runner : Runner) (workers : Int) (generator : String)
    (references : List String) : Session GeneratorError (List CoinInfo) := do
  let executed ← runGenerator r runner generator references
  Session.ofExcept ((reportEntries r workers executed).mapError .block)

end CoinPuzzles
