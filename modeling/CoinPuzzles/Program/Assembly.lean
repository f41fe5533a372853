import CoinPuzzles.Number.Numeral
import CoinPuzzles.Program.Codec
import CoinPuzzles.Text.Utf8

/-!
# Program/Assembly — programs as assembly text

A program is written as nested lists of tokens, with a dot before a last element that is no list.
A token is a numeral, a hexadecimal string, a quoted text, or a symbol; a symbol stands for its
operator or, if it is none, for its own text.  Only the first expression of a text is read.
-/

namespace CoinPuzzles

/-- Why a text is no assembly text. -/
inductive AssemblyError where
  /-- The text ends inside a list. -/
  | missingClose
  /-- More than one element follows the dot at an offset. -/
  | illegalDot (offset : Nat)
  /-- A token starts as a hexadecimal string and has other characters. -/
  | invalidHex (offset : Nat) (digits : String)
  /-- A quoted text has no closing quote. -/
  | unterminated (offset : Nat) (rest : String)
  /-- The text holds no expression. -/
  | noExpression
  /-- The lists are nested too deeply, or too long, to be read. -/
  | tooNested
deriving DecidableEq

/-- The wording of a refusal. -/
def AssemblyError.message : AssemblyError → String
  | .missingClose => "missing )"
  | .illegalDot offset => "illegal dot expression at " ++ toString offset
  | .invalidHex offset digits => "invalid hex at " ++ toString offset ++ ": 0x" ++ digits
  | .unterminated offset rest =>
    "unterminated string starting at " ++ toString offset ++ ": " ++ rest
  | .noExpression => "unexpected end of stream"
  | .tooNested => "maximum recursion depth exceeded"

namespace Assembly

/-- The operators and the words that stand for them. -/
def operators : List (String × UInt8) := [
  ("q", 0x01), ("a", 0x02), ("i", 0x03), ("c", 0x04), ("f", 0x05), ("r", 0x06), ("l", 0x07),
  ("x", 0x08), ("=", 0x09), (">s", 0x0A), ("sha256", 0x0B), ("substr", 0x0C), ("strlen", 0x0D),
  ("concat", 0x0E), ("+", 0x10), ("-", 0x11), ("*", 0x12), ("/", 0x13), ("divmod", 0x14),
  (">", 0x15), ("ash", 0x16), ("lsh", 0x17), ("logand", 0x18), ("logior", 0x19), ("logxor", 0x1A),
  ("lognot", 0x1B), ("point_add", 0x1D), ("pubkey_for_exp", 0x1E), ("not", 0x20), ("any", 0x21),
  ("all", 0x22), (".", 0x23), ("softfork", 0x24)]

/-! ## Tokens -/

/-- A piece of a text and the number of characters before it. -/
structure Token where
  text : List Char
  offset : Nat

/-- The rest of a text and the number of characters before it. -/
structure Cursor where
  rest : List Char
  offset : Nat

/-- The cursor `n` characters further on. -/
def Cursor.advance (c : Cursor) (n : Nat) : Cursor := ⟨c.rest.drop n, c.offset + n⟩

/-- The number of characters in front of a text that belong to no token: blanks, and comments from
a semicolon to the end of the line. -/
def gapLength (inComment : Bool) : List Char → Nat
  | [] => 0
  | c :: rest =>
    if inComment then gapLength (c != '\n' && c != '\r') rest + 1
    else if Text.isBlank c then gapLength false rest + 1
    else if c == ';' then gapLength true rest + 1
    else 0

/-- Whether a character ends a token that is no bracket, dot or quoted text. -/
def endsWord (c : Char) : Bool := Text.isBlank c || c == ')'

/-- The next token, if there is one, and the cursor after it. -/
def nextToken? (cursor : Cursor) : Except AssemblyError (Option (Token × Cursor)) :=
  let start := cursor.advance (gapLength false cursor.rest)
  match start.rest with
  | [] => .ok none
  | c :: rest =>
    if c == '(' || c == ')' || c == '.' then .ok (some (⟨[c], start.offset⟩, start.advance 1))
    else if c == '\x22' || c == '\x27' then
      let body := rest.takeWhile (· != c)
      if body.length < rest.length then
        .ok (some (⟨c :: body ++ [c], start.offset⟩, start.advance (body.length + 2)))
      else .error (.unterminated start.offset (String.ofList start.rest))
    else
      let word := start.rest.takeWhile fun d => !endsWord d
      .ok (some (⟨word, start.offset⟩, start.advance word.length))

/-- The next token of an open list. -/
def nextInList (cursor : Cursor) : Except AssemblyError (Token × Cursor) := do
  match ← nextToken? cursor with
  | some r => return r
  | none => .error .missingClose

/-! ## Atoms -/

/-- The digits of a token that is marked as a hexadecimal string. -/
def hexDigits? : List Char → Option (List Char)
  | '0' :: 'x' :: digits => some digits
  | '0' :: 'X' :: digits => some digits
  | _ => none

/-- The inside of a quoted token. -/
def quotedBody? : List Char → Option (List Char)
  | c :: d :: rest => if c == '\x22' || c == '\x27' then some (d :: rest).dropLast else none
  | _ => none

/-- The atom of a symbol: its operator, looked up without one leading hash mark, or its text. -/
def symbol (s : List Char) : Bytes :=
  let word := match s with
    | '#' :: rest => rest
    | s => s
  match operators.find? fun o => o.1.toList == word with
  | some (_, op) => [op]
  | none => s.flatMap Text.utf8Char

/-- The atom of a token that is no opening bracket. -/
def atomOf (t : Token) : Except AssemblyError Program :=
  match Numeral.read (String.ofList t.text) with
  | .ok n => .ok (.ofInt n)
  | .error _ =>
    match hexDigits? t.text with
    | some digits =>
      let digits := if digits.length % 2 = 1 then '0' :: digits else digits
      match Bytes.hexPairs? digits with
      | some b => .ok (.atom b)
      | none => .error (.invalidHex t.offset (String.ofList digits))
    | none =>
      match quotedBody? t.text with
      | some body => .ok (.atom (body.flatMap Text.utf8Char))
      | none => .ok (.atom (symbol t.text))

/-! ## Expressions -/

mutual

/-- The expression that starts with a token, and the cursor after it. -/
def expression : Nat → Token → Cursor → Except AssemblyError (Program × Cursor)
  | 0, _, _ => .error .tooNested
  | fuel + 1, t, cursor =>
    if t.text == ['('] then do
      let (t, cursor) ← nextInList cursor
      listTail fuel t cursor
    else (atomOf t).map (·, cursor)

/-- The rest of a list, from the token given up to its closing bracket. -/
def listTail : Nat → Token → Cursor → Except AssemblyError (Program × Cursor)
  | 0, _, _ => .error .tooNested
  | fuel + 1, t, cursor =>
    if t.text == [')'] then .ok (.nil, cursor)
    else do
      let (first, cursor) ← expression fuel t cursor
      let (t, cursor) ← nextInList cursor
      if t.text == ['.'] then
        let dot := t.offset
        let (t, cursor) ← nextInList cursor
        let (last, cursor) ← expression fuel t cursor
        let (t, cursor) ← nextInList cursor
        if t.text == [')'] then return (.pair first last, cursor)
        else .error (.illegalDot dot)
      else
        let (rest, cursor) ← listTail fuel t cursor
        return (.pair first rest, cursor)

end

/-- The number of list elements and opening brackets that may enclose or precede a token. -/
def nestingLimit : Nat := 980

/-- The program of the first expression of a text, read with so many levels. -/
def readWithin (levels : Nat) (text : String) : Except AssemblyError Program := do
  match ← nextToken? ⟨text.toList, 0⟩ with
  | none => .error .noExpression
  | some (t, cursor) => return (← expression levels t cursor).1

/-- The program of the first expression of a text. -/
def read (text : String) : Except AssemblyError Program := readWithin nestingLimit text

end Assembly

end CoinPuzzles
