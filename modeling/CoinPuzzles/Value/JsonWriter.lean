import CoinPuzzles.Value.Basic

/-!
# Value/JsonWriter — documents written as JSON text

Text is written in ASCII: what lies beyond is written by its UTF-16 code units.  The compact form
has no blanks; the indented form sets every entry on a line of its own, two columns further in.
-/

namespace CoinPuzzles.Json

open Text (hexField)

/-- A code unit written by its number. -/
def unit (n : Nat) : List Char := '\x5c' :: 'u' :: hexField 4 n

/-- One character of a text. -/
def escaped (c : Char) : List Char :=
  let n := c.toNat
  if c == '\x22' then ['\x5c', '\x22']
  else if c == '\x5c' then ['\x5c', '\x5c']
  else if c == '\n' then ['\x5c', 'n']
  else if c == '\r' then ['\x5c', 'r']
  else if c == '\t' then ['\x5c', 't']
  else if n == 0x08 then ['\x5c', 'b']
  else if n == 0x0C then ['\x5c', 'f']
  else if 0x20 ≤ n && n ≤ 0x7E then [c]
  else if n < 0x10000 then unit n
  else unit (0xD800 + (n - 0x10000) / 0x400) ++ unit (0xDC00 + (n - 0x10000) % 0x400)

/-- A text between double quotes. -/
def quoted (s : String) : String :=
  String.ofList ('\x22' :: s.toList.flatMap escaped ++ ['\x22'])

/-- A floating-point number. -/
def floatText : Binary64 → String
  | .nan => "NaN"
  | .infinite negative => if negative then "-Infinity" else "Infinity"
  | x => x.toText

/-- The text of a key. -/
def keyText : Value → String
  | .text s => s
  | .null => "null"
  | .bool b => if b then "true" else "false"
  | .float x => floatText x
  | v => v.display

/-- The text of a scalar, of an empty list and of an empty map. -/
def scalarText : Value → String
  | .null => "null"
  | .bool b => if b then "true" else "false"
  | .int n => toString n
  | .float x => floatText x
  | .text s => quoted s
  | .bytes b => quoted (Text.quotedBytes b)
  | .date y m d => quoted (Calendar.dateText y m d)
  | .moment m => quoted m.text
  | .list _ => "[]"
  | .map _ => "\x7b\x7d"

mutual

/-- The compact form of a document. -/
def compact : Value → String
  | .list (v :: rest) => "[" ++ compact v ++ compactItems rest ++ "]"
  | .map ((k, v) :: rest) =>
    "\x7b" ++ quoted (keyText k) ++ ":" ++ compact v ++ compactEntries rest ++ "\x7d"
  | v => scalarText v

/-- List items after the first, each after a comma. -/
def compactItems : List Value → String
  | [] => ""
  | v :: rest => "," ++ compact v ++ compactItems rest

/-- Map entries after the first, each after a comma. -/
def compactEntries : List (Value × Value) → String
  | [] => ""
  | (k, v) :: rest => "," ++ quoted (keyText k) ++ ":" ++ compact v ++ compactEntries rest

end

/-- The start of a line at a level of nesting. -/
def newline (level : Nat) : String :=
  String.ofList ('\n' :: List.replicate (2 * level) ' ')

mutual

/-- The indented form of a document at a level of nesting. -/
def indented (level : Nat) : Value → String
  | .list (v :: rest) =>
    "[" ++ newline (level + 1) ++ indented (level + 1) v ++ indentedItems (level + 1) rest ++
      newline level ++ "]"
  | .map ((k, v) :: rest) =>
    "\x7b" ++ newline (level + 1) ++ quoted (keyText k) ++ ": " ++ indented (level + 1) v ++
      indentedEntries (level + 1) rest ++ newline level ++ "\x7d"
  | v => scalarText v

/-- List items after the first, each on a line of its own. -/
def indentedItems (level : Nat) : List Value → String
  | [] => ""
  | v :: rest => "," ++ newline level ++ indented level v ++ indentedItems level rest

/-- Map entries after the first, each on a line of its own. -/
def indentedEntries (level : Nat) : List (Value × Value) → String
  | [] => ""
  | (k, v) :: rest =>
    "," ++ newline level ++ quoted (keyText k) ++ ": " ++ indented level v ++
      indentedEntries level rest

end

example : compact (.object [("a", .list [.null, .bool true]), ("é", .text "x")]) =
    "\x7b\x22a\x22:[null,true],\x22\x5cu00e9\x22:\x22x\x22\x7d" := by decide +kernel

example : indented 0 (.object [("a", .list [.int 1]), ("b", .list [])]) =
    "\x7b\n  \x22a\x22: [\n    1\n  ],\n  \x22b\x22: []\n\x7d" := by decide +kernel

end CoinPuzzles.Json
