import CoinPuzzles.Yaml.Plain

/-!
# Yaml/Cursor — a place in a document

A cursor is the rest of the text with its line and column.  It is fresh if only spaces and marks
that open a nested block precede it on its line; only then may a block begin there.
-/

namespace CoinPuzzles.Yaml

/-- The end of a line. -/
def isBreak (c : Char) : Bool :=
  c == '\n' || c == '\r' || c == '\x85' || c == '\u2028' || c == '\u2029'

/-- A space, a tab or the end of a line. -/
def isGap (c : Char) : Bool := c == ' ' || c == '\t' || isBreak c

/-- Whether a text is over, or goes on with a space, a tab or the end of a line. -/
def gapFollows (s : List Char) : Bool :=
  match s with
  | [] => true
  | c :: _ => isGap c

/-- A line end as it counts in a scalar: the ends of paragraphs stay, the others become a feed. -/
def breakText (c : Char) : Char := if c == '\u2028' || c == '\u2029' then c else '\n'

/-- A place in a document. -/
structure Cursor where
  rest : List Char
  column : Nat
  line : Nat
  fresh : Bool

namespace Cursor

/-- The start of a text. -/
def start (s : List Char) : Cursor := ⟨s, 0, 0, true⟩

/-- The place one character on. -/
def next (c : Cursor) : Cursor :=
  match c.rest with
  | [] => c
  | d :: rest =>
    if isBreak d then ⟨rest, 0, c.line + 1, true⟩
    else ⟨rest, c.column + 1, c.line, c.fresh && d == ' '⟩

/-- The place `n` characters on. -/
def advance : Nat → Cursor → Cursor
  | 0, c => c
  | n + 1, c => advance n c.next

/-- The place after any spaces. -/
def skipSpaces (c : Cursor) : Cursor := c.advance (c.rest.takeWhile (· == ' ')).length

/-- Skips spaces, comments and line ends, `fuel` of them at most. -/
def skipGapWith : Nat → Cursor → Cursor
  | 0, c => c
  | fuel + 1, c =>
    let c := c.skipSpaces
    let c := match c.rest with
      | '#' :: _ => c.advance (c.rest.takeWhile fun d => !isBreak d).length
      | _ => c
    match c.rest with
    | [] => c
    | d :: _ => if isBreak d then skipGapWith fuel c.next else c

/-- The place of the next token. -/
def skipGap (c : Cursor) : Cursor := c.skipGapWith (c.rest.length + 1)

/-- Whether a document marker of three of the given characters stands here. -/
def atMarkerOf (mark : Char) (c : Cursor) : Bool :=
  c.column == 0 && (match c.rest with
    | a :: b :: d :: rest => a == mark && b == mark && d == mark && gapFollows rest
    | _ => false)

/-- Whether a document starts or ends here. -/
def atMarker (c : Cursor) : Bool := c.atMarkerOf '-' || c.atMarkerOf '.'

/-- Whether nothing more of the document follows here. -/
def atEnd (c : Cursor) : Bool := c.rest.isEmpty || c.atMarker

/-- Whether a character that a gap has to follow stands here. -/
def atIndicator (mark : Char) (c : Cursor) : Bool :=
  match c.rest with
  | d :: rest => d == mark && gapFollows rest
  | [] => false

end Cursor

end CoinPuzzles.Yaml
