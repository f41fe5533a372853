import CoinPuzzles.Text.Printable
import CoinPuzzles.Bytes.Basic
import CoinPuzzles.Bytes.Digits

/-!
# Text/Quoted — a text shown between quotes

`quoted` shows a text on one line: single quotes, or double quotes if the text holds a single quote
and no double one; the backslash and the quote are escaped, and what is not printable is written by
its code.  `quotedBytes` does the same for a byte string, of which only ASCII is shown as it is.
-/

namespace CoinPuzzles.Text

open CoinPuzzles.Bytes (hexDigit)

/-- The lowest `width` hexadecimal digits of `n`, highest first. -/
def hexField : Nat → Nat → List Char
  | 0, _ => []
  | width + 1, n => hexField width (n / 16) ++ [hexDigit (n % 16)]

/-- One character of a quoted text. -/
def escaped (quote c : Char) : List Char :=
  if c == quote || c == '\x5c' then ['\x5c', c]
  else if c == '\n' then ['\x5c', 'n']
  else if c == '\r' then ['\x5c', 'r']
  else if c == '\t' then ['\x5c', 't']
  else if isPrintable c then [c]
  else if c.toNat < 0x100 then '\x5c' :: 'x' :: hexField 2 c.toNat
  else if c.toNat < 0x10000 then '\x5c' :: 'u' :: hexField 4 c.toNat
  else '\x5c' :: 'U' :: hexField 8 c.toNat

/-- The quote that encloses a text. -/
def quoteFor (s : List Char) : Char :=
  if s.contains '\x27' && !s.contains '\x22' then '\x22' else '\x27'

/-- The text between quotes, on one line of printable characters. -/
def quoted (s : List Char) : List Char :=
  let quote := quoteFor s
  quote :: s.flatMap (escaped quote) ++ [quote]

/-- The same for a string. -/
def quotedString (s : String) : String := String.ofList (quoted s.toList)

/-- One byte of a quoted byte string. -/
def escapedByte (quote : Char) (x : UInt8) : List Char :=
  if x.toNat < 0x7F then escaped quote (Char.ofNat x.toNat)
  else '\x5c' :: 'x' :: hexField 2 x.toNat

/-- A byte string between quotes, on one line of ASCII. -/
def quotedBytes (b : Bytes) : String :=
  let quote := quoteFor (b.map fun x => Char.ofNat x.toNat)
  String.ofList ('b' :: quote :: b.flatMap (escapedByte quote) ++ [quote])

example : quotedString "a\nb" = "\x27a\x5cnb\x27" := by decide +kernel

example : quotedString "it\x27s" = "\x22it\x27s\x22" := by decide +kernel

example : quotedBytes [0x61, 0x0A, 0xFF] = "b\x27a\x5cn\x5cxff\x27" := by decide +kernel

example : quotedString "\x07\u2028" = "\x27\x5cx07\x5cu2028\x27" := by decide +kernel

end CoinPuzzles.Text
