import CoinPuzzles.Bytes.Hex
import CoinPuzzles.Program.Basic

/-!
# Program/Codec — programs as byte strings

A pair is the byte `ff` before its two halves.  A single byte below `80` stands for itself; any
other atom follows a size prefix, whose leading one bits count the bytes of the prefix.  The writer
takes the shortest prefix, the reader accepts any width.
-/

namespace CoinPuzzles

/-- Why a byte string or a text is no program, or a program has no tree hash. -/
inductive ProgramError where
  /-- The text is no byte string. -/
  | hex (cause : HexError)
  /-- The bytes end inside a program. -/
  | badEncoding
  /-- An atom announces a size past the limit. -/
  | blobTooLarge
  /-- Bytes follow the program. -/
  | trailingBytes
  /-- The program has too many levels to hash. -/
  | tooDeep
deriving DecidableEq

/-- The wording of a refusal. -/
def ProgramError.message : ProgramError → String
  | .hex cause => cause.message
  | .badEncoding => "Malformed program bytes: bad encoding"
  | .blobTooLarge => "Malformed program bytes: blob too large"
  | .trailingBytes => "Trailing bytes after serialized program"
  | .tooDeep => "Program is nested too deeply to hash"

namespace Program

/-- The first size that an atom may not have. -/
def sizeLimit : Nat := 0x400000000

/-- The shortest size prefix of an atom. -/
def sizePrefix (n : Nat) : Bytes :=
  if n < 0x40 then [UInt8.ofNat (0x80 + n)]
  else if n < 0x2000 then Bytes.fixed 2 (0xC000 + n)
  else if n < 0x100000 then Bytes.fixed 3 (0xE00000 + n)
  else if n < 0x8000000 then Bytes.fixed 4 (0xF0000000 + n)
  else Bytes.fixed 5 (0xF800000000 + n)

/-- The bytes of an atom, with its size in front unless it is one byte below `80`. -/
def encodeAtom (b : Bytes) : Bytes :=
  match b with
  | [x] => if x.toNat < 0x80 then [x] else sizePrefix 1 ++ [x]
  | b => sizePrefix b.length ++ b

/-- The bytes of a program. -/
def encode : Program → Bytes
  | atom b => encodeAtom b
  | pair a b => 0xFF :: (encode a ++ encode b)

/-- Whether every atom of a program is short enough to have a size prefix. -/
def fits : Program → Bool
  | atom b => decide (b.length < sizeLimit)
  | pair a b => fits a && fits b

/-- The number of leading one bits of a byte. -/
def leadingOnes (x : Nat) : Nat :=
  if x < 0x80 then 0
  else if x < 0xC0 then 1
  else if x < 0xE0 then 2
  else if x < 0xF0 then 3
  else if x < 0xF8 then 4
  else if x < 0xFC then 5
  else if x < 0xFE then 6
  else if x < 0xFF then 7
  else 8

/-- The atom whose first byte is `x`, at least `80`, and the bytes after it. -/
def parseSized (x : UInt8) (rest : Bytes) : Except ProgramError (Bytes × Bytes) :=
  let width := leadingOnes x.toNat
  let more := rest.take (width - 1)
  if more.length < width - 1 then .error .badEncoding
  else
    let size := Bytes.toNat (UInt8.ofNat (x.toNat % Nat.pow 2 (8 - width)) :: more)
    if sizeLimit ≤ size then .error .blobTooLarge
    else
      let body := rest.drop (width - 1)
      if body.length < size then .error .badEncoding
      else .ok (body.take size, body.drop size)

/-- The program in front of a byte string and the bytes after it; `fuel` bounds its size. -/
def parseWith : Nat → Bytes → Except ProgramError (Program × Bytes)
  | 0, _ => .error .badEncoding
  | _ + 1, [] => .error .badEncoding
  | fuel + 1, x :: rest =>
    if x = 0xFF then do
      let (left, rest) ← parseWith fuel rest
      let (right, rest) ← parseWith fuel rest
      return (pair left right, rest)
    else if x.toNat < 0x80 then .ok (atom [x], rest)
    else do
      let (b, rest) ← parseSized x rest
      return (atom b, rest)

/-- The program in front of a byte string and the bytes after it. -/
def parse (b : Bytes) : Except ProgramError (Program × Bytes) := parseWith b.length b

/-- The program that fills a byte string. -/
def ofBytes (b : Bytes) : Except ProgramError Program :=
  match parse b with
  | .ok (p, []) => .ok p
  | .ok (_, _ :: _) => .error .trailingBytes
  | .error e => .error e

/-- The program that a hexadecimal text spells. -/
def ofHex (text : String) : Except ProgramError Program :=
  match Bytes.ofHex text with
  | .ok b => ofBytes b
  | .error e => .error (.hex e)

/-- The bytes of a program in digits, after the mark `0x`. -/
def toHex (p : Program) : String := Bytes.toMarkedHex p.encode

end Program

end CoinPuzzles
