import CoinPuzzles.Bytes.Hex
import CoinPuzzles.Coin.Basic
import CoinPuzzles.Value.Basic

/-!
# Coin/Document — coins, spends and bundles as documents

Byte strings are written in marked hexadecimal digits and amounts as integers.  The reader takes
any scalar whose text is right: byte strings with or without the mark, and amounts as numerals or
as numbers, whose fraction is cut off.  A value that has no text, since an integer in it has too
many digits, is refused.
-/

namespace CoinPuzzles

/-- Why a document is no coin, spend or bundle. -/
inductive DocumentError where
  /-- A byte string is not in hexadecimal digits or has the wrong size. -/
  | hex (cause : HexError)
  /-- The fields do not make a coin. -/
  | coin (cause : CoinError)
  /-- An amount is no numeral, or a value that has to be written has none. -/
  | numeral (cause : NumeralError)
  /-- An amount is the floating-point value that is no number. -/
  | notANumber
  /-- An amount is infinite. -/
  | infinite
  | missingField (name : String)
  /-- A value is not of a kind that has items, or fields, or a number. -/
  | wrongShape
  /-- A bundle is not a map. -/
  | notAMap
deriving DecidableEq

/-- The wording of a refusal. -/
def DocumentError.message : DocumentError → String
  | .hex cause => cause.message
  | .coin cause => cause.message
  | .numeral cause => cause.message
  | .notANumber => "cannot convert float NaN to integer"
  | .infinite => "cannot convert float infinity to integer"
  | .missingField name => Text.quotedString name
  | .wrongShape => "value of the wrong kind"
  | .notAMap => "value has no fields"

namespace Value

/-- The value of a field that a map must have. -/
def field (name : String) : Value → Except DocumentError Value
  | map entries =>
    match find? name entries with
    | some v => .ok v
    | none => .error (.missingField name)
  | _ => .error .wrongShape

/-- The items of a value: those of a list, the characters of a text, the numbers of a byte string,
the keys of a map. -/
def iterate : Value → Except DocumentError (List Value)
  | list items => .ok items
  | text s => .ok (s.toList.map fun c => text c.toString)
  | bytes b => .ok (b.map fun x => int x.toNat)
  | map entries => .ok (entries.map (·.1))
  | _ => .error .wrongShape

/-- The integer of a value: a numeral is read, a fraction is cut off. -/
def toInteger : Value → Except DocumentError Int
  | bool b => .ok (if b then 1 else 0)
  | int n => .ok n
  | text s => (Numeral.read s).mapError .numeral
  | bytes b => (Numeral.readBytes b).mapError .numeral
  | float x =>
    match x with
    | .nan => .error .notANumber
    | .infinite _ => .error .infinite
    | x => .ok (x.truncate?.getD 0)
  | _ => .error .wrongShape

/-- The byte string that the text of a value spells. -/
def toBytes (v : Value) : Except DocumentError Bytes := do
  let text ← v.write.mapError .numeral
  (Bytes.ofHex text).mapError .hex

/-- The byte string of `size` bytes that the text of a value spells. -/
def toBytesSized (size : Nat) (v : Value) : Except DocumentError Bytes := do
  let text ← v.write.mapError .numeral
  (Bytes.ofHexSized size text).mapError .hex

end Value

/-- A byte string in marked digits. -/
def Bytes.toValue (b : Bytes) : Value := .text (Bytes.toMarkedHex b)

namespace Coin

/-- The document of a coin. -/
def toDocument (c : Coin) : Value :=
  .object [("parent_coin_info", c.parent.toValue), ("puzzle_hash", c.puzzleHash.toValue),
    ("amount", .int c.amount)]

/-- The coin of a document. -/
def ofDocument (v : Value) : Except DocumentError Coin := do
  let parent ← (← v.field "parent_coin_info").toBytesSized 32
  let puzzleHash ← (← v.field "puzzle_hash").toBytesSized 32
  let amount ← (← v.field "amount").toInteger
  (Coin.of? parent puzzleHash amount).mapError .coin

end Coin

namespace Spend

/-- The document of a spend. -/
def toDocument (s : Spend) : Value :=
  .object [("coin", s.coin.toDocument), ("puzzle_reveal", s.puzzleReveal.toValue),
    ("solution", s.solution.toValue)]

/-- The spend of a document. -/
def ofDocument (v : Value) : Except DocumentError Spend := do
  let coin ← Coin.ofDocument (← v.field "coin")
  let puzzleReveal ← (← v.field "puzzle_reveal").toBytes
  let solution ← (← v.field "solution").toBytes
  return ⟨coin, puzzleReveal, solution⟩

end Spend

namespace Bundle

/-- The document of a bundle. -/
def toDocument (b : Bundle) : Value :=
  .object [("aggregated_signature", b.signature.toValue),
    ("coin_spends", .list (b.spends.map Spend.toDocument))]

/-- The bundle of a document.  A signature that counts as false is none, and a missing list of
spends is empty. -/
def ofDocument : Value → Except DocumentError Bundle
  | .map entries => do
    let signature := (Value.find? "aggregated_signature" entries).getD .null
    let signature ← if signature.truthy then signature.toBytes else .ok []
    let items ← ((Value.find? "coin_spends" entries).getD (.list [])).iterate
    let spends ← items.mapM Spend.ofDocument
    return ⟨signature, spends⟩
  | _ => .error .notAMap

end Bundle

end CoinPuzzles
