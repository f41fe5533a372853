import CoinPuzzles.Bytes.Digits
import CoinPuzzles.Value.Basic

/-!
# Value/JsonReader — documents read from JSON text

The grammar of JSON, and the words `NaN`, `Infinity` and `-Infinity` as numbers.  A number without
a fraction and an exponent is an integer of any size that a numeral may have.  An equal key keeps
its first place and takes the last value.  Lists and maps may be nested up to a limit.
-/

namespace CoinPuzzles

/-- Why a text is no JSON document. -/
inductive JsonError where
  /-- The text does not follow the grammar. -/
  | malformed
  /-- An integer has too many digits. -/
  | numeral (cause : NumeralError)
  /-- Too many lists and maps are open at once. -/
  | tooNested
deriving DecidableEq

namespace Json

open Bytes (hexValue?)

/-- The blanks between the parts of a document. -/
def skipBlanks (s : List Char) : List Char :=
  s.dropWhile fun c => c == ' ' || c == '\t' || c == '\n' || c == '\r'

/-- The number that four hexadecimal digits spell, and what follows them. -/
def hexQuad? : List Char → Option (Nat × List Char)
  | a :: b :: c :: d :: rest =>
    match hexValue? a, hexValue? b, hexValue? c, hexValue? d with
    | some a, some b, some c, some d => some (((a * 16 + b) * 16 + c) * 16 + d, rest)
    | _, _, _, _ => none
  | _ => none

/-- The character that a letter after a backslash stands for. -/
def escape? (c : Char) : Option Char :=
  if c == '\x22' then some '\x22'
  else if c == '\x5c' then some '\x5c'
  else if c == '/' then some '/'
  else if c == 'b' then some '\x08'
  else if c == 'f' then some '\x0c'
  else if c == 'n' then some '\n'
  else if c == 'r' then some '\r'
  else if c == 't' then some '\t'
  else none

/-- The code unit written after a backslash and the letter `u`, with a second one joined to it if
the two are a surrogate pair.  A surrogate without its partner is no character of a text here; the
replacement character U+FFFD stands for it. -/
def unicodeEscape? (s : List Char) : Option (Char × List Char) := do
  let (high, rest) ← hexQuad? s
  if 0xD800 ≤ high ∧ high < 0xDC00 then
    match rest with
    | '\x5c' :: 'u' :: rest' =>
      match hexQuad? rest' with
      | some (low, rest'') =>
        if 0xDC00 ≤ low ∧ low < 0xE000 then
          return (Char.ofNat (0x10000 + (high - 0xD800) * 0x400 + (low - 0xDC00)), rest'')
        else return ('\ufffd', rest)
      | none => return ('\ufffd', rest)
    | _ => return ('\ufffd', rest)
  else if 0xDC00 ≤ high ∧ high < 0xE000 then return ('\ufffd', rest)
  else return (Char.ofNat high, rest)

/-- The characters up to the closing quote and what follows it. -/
def stringBody : Nat → List Char → Option (List Char × List Char)
  | 0, _ => none
  | _ + 1, [] => none
  | fuel + 1, c :: rest =>
    if c == '\x22' then some ([], rest)
    else if c == '\x5c' then
      match rest with
      | 'u' :: rest' => do
        let (d, rest'') ← unicodeEscape? rest'
        let (ds, r) ← stringBody fuel rest''
        return (d :: ds, r)
      | e :: rest' => do
        let d ← escape? e
        let (ds, r) ← stringBody fuel rest'
        return (d :: ds, r)
      | [] => none
    else if c.toNat < 0x20 then none
    else do
      let (ds, r) ← stringBody fuel rest
      return (c :: ds, r)

/-- The fraction in front of a text: a point and digits. -/
def takeFraction (s : List Char) : List Char × List Char :=
  match s with
  | '.' :: rest =>
    let digits := rest.takeWhile Char.isDigit
    if digits.isEmpty then ([], s) else (digits, rest.drop digits.length)
  | _ => ([], s)

/-- The exponent in front of a text: a letter `e`, a sign or none, and digits. -/
def takeExponent (s : List Char) : Option Int × List Char :=
  match s with
  | e :: rest =>
    if e == 'e' || e == 'E' then
      let (negative, rest) := Numeral.takeSign rest
      let digits := rest.takeWhile Char.isDigit
      if digits.isEmpty then (none, s)
      else
        let n : Int := Numeral.ofAscii digits
        (some (if negative then -n else n), rest.drop digits.length)
    else (none, s)
  | [] => (none, s)

/-- The number in front of a text whose sign has been read. -/
def number (negative : Bool) (s : List Char) : Except JsonError (Value × List Char) :=
  let digits := s.takeWhile Char.isDigit
  let whole := if digits.head? == some '0' then ['0'] else digits
  let rest := s.drop whole.length
  if whole.isEmpty then .error .malformed
  else
    let (fraction, rest) := takeFraction rest
    let (exponent, rest) := takeExponent rest
    if fraction.isEmpty && exponent.isNone then
      if Numeral.digitLimit < whole.length then
        .error (.numeral (.tooLongToRead whole.length))
      else
        let n : Int := Numeral.ofAscii whole
        .ok (.int (if negative then -n else n), rest)
    else
      .ok (.float (Binary64.ofDecimal negative (Numeral.ofAscii (whole ++ fraction))
        (exponent.getD 0 - fraction.length)), rest)

/-- What follows a word that stands in front of a text. -/
def afterWord? (word : String) (s : List Char) : Option (List Char) :=
  if word.toList.isPrefixOf s then some (s.drop word.length) else none

/-- A value that is one word, or a number. -/
def scalar (s : List Char) : Except JsonError (Value × List Char) :=
  let words : List (String × Value) :=
    [("null", .null), ("true", .bool true), ("false", .bool false), ("NaN", .float .nan),
      ("Infinity", .float (.infinite false)), ("-Infinity", .float (.infinite true))]
  match words.findSome? fun (w, v) => (afterWord? w s).map (v, ·) with
  | some r => .ok r
  | none =>
    match s with
    | '-' :: rest => number true rest
    | _ => number false s

mutual

/-- The value in front of a text; `room` is the number of lists and maps that may still be opened
inside each other. -/
def value : Nat → Nat → List Char → Except JsonError (Value × List Char)
  | 0, _, _ => .error .malformed
  | fuel + 1, room, s =>
    match s with
    | '\x22' :: rest =>
      match stringBody (rest.length + 1) rest with
      | some (cs, r) => .ok (.text (String.ofList cs), r)
      | none => .error .malformed
    | '[' :: rest =>
      match room with
      | 0 => .error .tooNested
      | room + 1 =>
        match skipBlanks rest with
        | ']' :: r => .ok (.list [], r)
        | r => (items fuel room r).map fun (vs, r) => (.list vs, r)
    | '\x7b' :: rest =>
      match room with
      | 0 => .error .tooNested
      | room + 1 =>
        match skipBlanks rest with
        | '\x7d' :: r => .ok (.map [], r)
        | r => (entries fuel room [] r).map fun (es, r) => (.map es, r)
    | s => scalar s

/-- The items of a list, up to its closing bracket. -/
def items : Nat → Nat → List Char → Except JsonError (List Value × List Char)
  | 0, _, _ => .error .malformed
  | fuel + 1, room, s => do
    let (v, r) ← value fuel room s
    match skipBlanks r with
    | ',' :: r =>
      let (vs, r) ← items fuel room (skipBlanks r)
      return (v :: vs, r)
    | ']' :: r => return ([v], r)
    | _ => .error .malformed

/-- The entries of a map, up to its closing brace, put into those already read. -/
def entries : Nat → Nat → List (Value × Value) → List Char →
    Except JsonError (List (Value × Value) × List Char)
  | 0, _, _, _ => .error .malformed
  | fuel + 1, room, es, s =>
    match s with
    | '\x22' :: rest =>
      match stringBody (rest.length + 1) rest with
      | none => .error .malformed
      | some (cs, r) =>
        match skipBlanks r with
        | ':' :: r => do
          let (v, r) ← value fuel room (skipBlanks r)
          let es := Value.put (.text (String.ofList cs)) v es
          match skipBlanks r with
          | ',' :: r => entries fuel room es (skipBlanks r)
          | '\x7d' :: r => return (es, r)
          | _ => .error .malformed
        | _ => .error .malformed
    | _ => .error .malformed

end

/-- The number of lists and maps that may be open at once. -/
def nestingLimit : Nat := 980

/-- The document that a text holds, if it is not nested past the given number of levels. -/
def readWithin (levels : Nat) (text : String) : Except JsonError Value := do
  let s := text.toList
  let (v, r) ← value (2 * s.length + 1) levels (skipBlanks s)
  if (skipBlanks r).isEmpty then return v else .error .malformed

/-- The document that a text holds. -/
def read (text : String) : Except JsonError Value := readWithin nestingLimit text

end Json

end CoinPuzzles
