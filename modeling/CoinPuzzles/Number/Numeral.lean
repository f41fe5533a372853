import CoinPuzzles.Text.Blank
import CoinPuzzles.Text.DecimalDigit
import CoinPuzzles.Text.Quoted

/-!
# Number/Numeral — integers as decimal text

A numeral is a sign or none, then decimal digits of any script with single low lines between them,
blanks around it not counted.  Numerals are limited to 4300 digits, both read and written.
-/

namespace CoinPuzzles

/-- Why a text is no integer, or an integer has no text. -/
inductive NumeralError where
  /-- The text is no numeral. -/
  | invalid (text : String)
  /-- The byte string is no numeral. -/
  | invalidBytes (bytes : Bytes)
  /-- The text has more digits than a numeral may have. -/
  | tooLongToRead (digits : Nat)
  /-- The integer has more digits than a numeral may have. -/
  | tooLongToWrite
deriving DecidableEq

/-- The number of digits that a numeral may have. -/
def Numeral.digitLimit : Nat := 4300

/-- What is shown of something that is no numeral: 200 characters at most. -/
def Numeral.clipped (shown : String) : String := String.ofList (shown.toList.take 200)

/-- The wording of a refusal. -/
def NumeralError.message : NumeralError → String
  | .invalid text =>
    "invalid literal for int() with base 10: " ++ Numeral.clipped (Text.quotedString text)
  | .invalidBytes bytes =>
    "invalid literal for int() with base 10: " ++ Numeral.clipped (Text.quotedBytes bytes)
  | .tooLongToRead digits =>
    "Exceeds the limit (" ++ toString Numeral.digitLimit ++
      " digits) for integer string conversion: value has " ++ toString digits ++
      " digits; use sys.set_int_max_str_digits() to increase the limit"
  | .tooLongToWrite =>
    "Exceeds the limit (" ++ toString Numeral.digitLimit ++
      " digits) for integer string conversion; " ++
      "use sys.set_int_max_str_digits() to increase the limit"

namespace Numeral

/-- The blanks that may stand around a numeral: those of ASCII, and beyond it all of Unicode. -/
def isFieldBlank (c : Char) : Bool :=
  Text.isAsciiBlank c || (decide (128 ≤ c.toNat) && Text.isBlank c)

/-- The text without the blanks that may stand around a numeral. -/
def trimField (s : List Char) : List Char := Text.dropAround isFieldBlank s

/-- A sign in front of a text (`true` for a minus) and what follows it. -/
def takeSign : List Char → Bool × List Char
  | '-' :: rest => (true, rest)
  | '+' :: rest => (false, rest)
  | s => (false, s)

/-- The digits in front of a text, single low lines between them skipped, and what follows;
nothing if a low line has no digit on either side.  `inside` tells that a digit came before. -/
def takeDigits (inside : Bool) : List Char → Option (List Nat × List Char)
  | [] => some ([], [])
  | c :: rest =>
    match Text.digit? c with
    | some d => (takeDigits true rest).map fun (ds, r) => (d :: ds, r)
    | none =>
      if c == '_' then
        if inside && (rest.head?.bind Text.digit?).isSome then takeDigits false rest else none
      else some ([], c :: rest)

/-- The number that digits spell in a base, highest first. -/
def ofDigits (base : Nat) (ds : List Nat) : Nat := ds.foldl (fun n d => base * n + d) 0

/-- The number that decimal digits of ASCII spell. -/
def ofAscii (s : List Char) : Nat := ofDigits 10 (s.map fun c => c.toNat - 48)

/-- Reads an integer.  A text with too many digits is refused for that before what follows the
digits is looked at. -/
def read (text : String) : Except NumeralError Int :=
  let (negative, s) := takeSign (trimField text.toList)
  match takeDigits false s with
  | none => .error (.invalid text)
  | some ([], _) => .error (.invalid text)
  | some (ds, rest) =>
    if digitLimit < ds.length then .error (.tooLongToRead ds.length)
    else if rest.isEmpty then
      .ok (if negative then -(ofDigits 10 ds : Int) else ofDigits 10 ds)
    else .error (.invalid text)

example : read " +1_000 " = .ok 1000 := rfl

example : read "1__0" = .error (.invalid "1__0") := rfl

/-- Reads an integer from a byte string, its bytes taken for the characters of ASCII. -/
def readBytes (b : Bytes) : Except NumeralError Int :=
  match b.toAscii? with
  | none => .error (.invalidBytes b)
  | some text => (read text).mapError fun
    | .invalid _ => .invalidBytes b
    | cause => cause

/-- Writes an integer. -/
def write (n : Int) : Except NumeralError String :=
  if digitLimit < (toString n.natAbs).length then .error .tooLongToWrite else .ok (toString n)

end Numeral

end CoinPuzzles
