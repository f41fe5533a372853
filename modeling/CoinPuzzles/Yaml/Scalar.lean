import CoinPuzzles.Yaml.Cursor

/-!
# Yaml/Scalar — the text of a scalar

A scalar stands without quotes, between single or double quotes, or in a block of its own.  Line
ends inside one are folded: one becomes a space, and of several the first is dropped.
-/

namespace CoinPuzzles.Yaml

/-- A scalar that has been read, and the place after it. -/
structure Scalar where
  text : List Char
  after : Cursor

/-! ## Line ends -/

/-- Skips line ends and the characters `skip` between them: the line ends passed, and the place
after them; nothing if a document marker stands at the start of a line. -/
def passBreaks (skip : Char → Bool) : Nat → Cursor → Option (List Char × Cursor)
  | 0, c => some ([], c)
  | fuel + 1, c =>
    if c.atMarker then none
    else
      let c := c.advance (c.rest.takeWhile skip).length
      match c.rest with
      | d :: _ =>
        if isBreak d then (passBreaks skip fuel c.next).map fun (ds, c) => (breakText d :: ds, c)
        else some ([], c)
      | [] => some ([], c)

/-- Line ends folded: one feed is a space, of several the first is dropped. -/
def foldBreaks (first : Char) (others : List Char) : List Char :=
  if breakText first != '\n' then breakText first :: others
  else if others.isEmpty then [' '] else others

/-! ## Without quotes -/

/-- The characters that may not begin a scalar without quotes. -/
def indicators : List Char := [
  '-', '?', ':', ',', '[', ']', '\x7b', '\x7d', '#', '&', '*', '!', '|', '>', '\x27', '\x22', '%',
  '@', '\x60']

/-- Whether a scalar without quotes may begin here. -/
def beginsPlain (flow : Bool) : List Char → Bool
  | [] => false
  | c :: rest =>
    if isGap c then false
    else
      !indicators.contains c ||
        (!gapFollows rest && (c == '-' || (!flow && (c == '?' || c == ':'))))

/-- Whether a colon before this text ends a scalar. -/
def colonEnds (flow : Bool) (rest : List Char) : Bool :=
  gapFollows rest ||
    (flow && rest.head?.any fun c => [',', '[', ']', '\x7b', '\x7d'].contains c)

/-- The characters up to the next gap or mark. -/
def plainWord (flow : Bool) : List Char → List Char
  | [] => []
  | c :: rest =>
    if isGap c || (c == ':' && colonEnds flow rest) ||
        (flow && [',', '?', '[', ']', '\x7b', '\x7d'].contains c) then []
    else c :: plainWord flow rest

/-- The text that a gap between two words leaves, and the place after it; nothing if there is no
gap or the scalar cannot go on. -/
def plainGap (c : Cursor) : Option (List Char × Cursor) :=
  let spaces := c.rest.takeWhile (· == ' ')
  let c := c.skipSpaces
  match c.rest with
  | d :: _ =>
    if isBreak d then
      (passBreaks (· == ' ') (c.rest.length + 1) c.next).bind fun (ds, c) =>
        if c.atMarker then none else some (foldBreaks d ds, c)
    else if spaces.isEmpty then none else some (spaces, c)
  | [] => none

/-- Goes on with the words of a scalar that continue it. -/
def plainRest (flow : Bool) (indent : Int) : Nat → List Char → Cursor → Scalar
  | 0, text, c => ⟨text, c⟩
  | fuel + 1, text, c =>
    match plainGap c with
    | none => ⟨text, c⟩
    | some (gap, c') =>
      let word := plainWord flow c'.rest
      if c'.rest.head? == some '#' || (!flow && (c'.column : Int) ≤ indent) || word.isEmpty then
        ⟨text, c⟩
      else plainRest flow indent fuel (text ++ gap ++ word) (c'.advance word.length)

/-- The scalar without quotes that begins here. -/
def plainScalar (flow : Bool) (indent : Int) (c : Cursor) : Scalar :=
  let word := plainWord flow c.rest
  plainRest flow indent c.rest.length word (c.advance word.length)

/-! ## Between quotes -/

/-- The character of an escape of one letter. -/
def escape? (c : Char) : Option Char :=
  match c with
  | '0' => some '\x00'
  | 'a' => some '\x07'
  | 'b' => some '\x08'
  | 't' => some '\t'
  | '\t' => some '\t'
  | 'n' => some '\n'
  | 'v' => some '\x0b'
  | 'f' => some '\x0c'
  | 'r' => some '\r'
  | 'e' => some '\x1b'
  | ' ' => some ' '
  | '\x22' => some '\x22'
  | '\x5c' => some '\x5c'
  | '/' => some '/'
  | 'N' => some '\x85'
  | '_' => some '\xa0'
  | 'L' => some '\u2028'
  | 'P' => some '\u2029'
  | _ => none

/-- The number of digits of an escape by code point. -/
def escapeWidth? (c : Char) : Option Nat :=
  if c == 'x' then some 2 else if c == 'u' then some 4 else if c == 'U' then some 8 else none

/-- The character that digits after an escape letter stand for. -/
def codePoint? (digits : List Char) (width : Nat) : Option Char :=
  if digits.length = width ∧ digits.all fun d => (Bytes.hexValue? d).isSome then
    some (Char.ofNat (inBase 16 digits))
  else none

/-- A scalar with more text in front. -/
def Scalar.withText (text : List Char) (s : Except YamlError Scalar) : Except YamlError Scalar :=
  s.map fun s => ⟨text ++ s.text, s.after⟩

/-- The text of an escape after its backslash, and the place after it. -/
def escapeText (c : Cursor) : Except YamlError Scalar :=
  match c.rest with
  | [] => .error .malformed
  | e :: rest =>
    if isBreak e then
      match passBreaks isSpaceOrTab (rest.length + 1) c.next with
      | some (ds, c) => .ok ⟨ds, c⟩
      | none => .error .malformed
    else
      match escape? e, escapeWidth? e with
      | some ch, _ => .ok ⟨[ch], c.next⟩
      | none, some width =>
        match codePoint? (rest.take width) width with
        | some ch => .ok ⟨[ch], c.advance (1 + width)⟩
        | none => .error .malformed
      | none, none => .error .malformed

/-- The text of a gap between quotes, and the place after it. -/
def gapText (c : Cursor) : Except YamlError Scalar :=
  let spaces := c.rest.takeWhile isSpaceOrTab
  let c := c.advance spaces.length
  match c.rest with
  | [] => .error .malformed
  | b :: _ =>
    if isBreak b then
      match passBreaks isSpaceOrTab (c.rest.length + 1) c.next with
      | some (ds, c) => .ok ⟨foldBreaks b ds, c⟩
      | none => .error .malformed
    else .ok ⟨spaces, c⟩

/-- The text up to the closing quote, single or double. -/
def quotedText (double : Bool) : Nat → Cursor → Except YamlError Scalar
  | 0, _ => .error .malformed
  | fuel + 1, c =>
    match c.rest with
    | [] => .error .malformed
    | d :: rest =>
      if d == '\x22' && double then .ok ⟨[], c.next⟩
      else if d == '\x27' && !double then
        if rest.head? == some '\x27' then
          Scalar.withText ['\x27'] (quotedText double fuel (c.advance 2))
        else .ok ⟨[], c.next⟩
      else if d == '\x5c' && double then do
        let s ← escapeText c.next
        Scalar.withText s.text (quotedText double fuel s.after)
      else if isGap d then do
        let s ← gapText c
        Scalar.withText s.text (quotedText double fuel s.after)
      else Scalar.withText [d] (quotedText double fuel c.next)

/-- The scalar between quotes that begins here. -/
def quotedScalar (double : Bool) (c : Cursor) : Except YamlError Scalar :=
  quotedText double (c.rest.length + 1) c.next

/-! ## In a block -/

/-- How the line ends after a block count: all dropped, one kept, or all kept. -/
inductive Chomp where
  | strip
  | clip
  | keep
deriving DecidableEq

/-- What the header of a block says: how its end counts, and its indentation beyond the one around
it, if given. -/
structure BlockHeader where
  chomp : Chomp
  indentation : Option Nat

/-- The header after the mark of a block. -/
def blockHeader (s : List Char) : Option (BlockHeader × List Char) :=
  let chomp? (c : Char) : Option Chomp :=
    if c == '+' then some .keep else if c == '-' then some .strip else none
  let digit? (c : Char) : Option Nat :=
    if c.isDigit && c != '0' then some (c.toNat - 48) else none
  match s with
  | a :: b :: rest =>
    match chomp? a, digit? b, digit? a, chomp? b with
    | some k, some n, _, _ => some (⟨k, some n⟩, rest)
    | _, _, some n, some k => some (⟨k, some n⟩, rest)
    | some k, none, _, _ => if b == '0' then none else some (⟨k, none⟩, b :: rest)
    | _, _, some n, none => some (⟨.clip, some n⟩, b :: rest)
    | _, _, _, _ => if a == '0' then none else some (⟨.clip, none⟩, s)
  | [a] =>
    match chomp? a, digit? a with
    | some k, _ => some (⟨k, none⟩, [])
    | none, some n => some (⟨.clip, some n⟩, [])
    | none, none => if a == '0' then none else some (⟨.clip, none⟩, s)
  | [] => some (⟨.clip, none⟩, [])

/-- Skips empty lines and spaces in front of a block whose indentation is not given: the line ends
passed, the greatest column reached, and the place after them. -/
def blockStart : Nat → Nat → Cursor → List Char × Nat × Cursor
  | 0, widest, c => ([], widest, c)
  | fuel + 1, widest, c =>
    let c := c.skipSpaces
    let widest := max widest c.column
    match c.rest with
    | d :: _ =>
      if isBreak d then
        let (ds, widest, c) := blockStart fuel widest c.next
        (breakText d :: ds, widest, c)
      else ([], widest, c)
    | [] => ([], widest, c)

/-- Skips spaces up to a column. -/
def skipTo (column : Nat) (c : Cursor) : Cursor :=
  c.advance (min (column - c.column) (c.rest.takeWhile (· == ' ')).length)

/-- Skips empty lines inside a block, and the indentation of the line after them. -/
def blockBreaks (indent : Nat) : Nat → Cursor → List Char × Cursor
  | 0, c => ([], c)
  | fuel + 1, c =>
    let c := skipTo indent c
    match c.rest with
    | d :: _ =>
      if isBreak d then
        let (ds, c) := blockBreaks indent fuel c.next
        (breakText d :: ds, c)
      else ([], c)
    | [] => ([], c)

/-- Whether a line is indented further, by a space or a tab. -/
def startsBlank (s : List Char) : Bool := s.head?.any fun c => c == ' ' || c == '\t'

/-- The lines of a block: the text, and the line ends after the last line. -/
def blockLines (folded : Bool) (indent : Nat) : Nat → List Char → List Char → Cursor →
    List Char × List Char × List Char × Cursor
  | 0, text, breaks, c => (text, [], breaks, c)
  | fuel + 1, text, breaks, c =>
    let line := c.rest.takeWhile fun d => !isBreak d
    let text := text ++ breaks ++ line
    let after := c.advance line.length
    let lineBreak := (after.rest.head?.map breakText).toList
    let (breaks, after) := blockBreaks indent after.rest.length after.next
    if after.column = indent ∧ !after.rest.isEmpty then
      let joined :=
        if folded && lineBreak == ['\n'] && !startsBlank c.rest && !startsBlank after.rest then
          if breaks.isEmpty then [' '] else []
        else lineBreak
      blockLines folded indent fuel (text ++ joined) breaks after
    else (text, lineBreak, breaks, after)

/-- The scalar in a block whose mark stands here, inside a block of the given indentation. -/
def blockScalar (folded : Bool) (parent : Int) (c : Cursor) : Except YamlError Scalar :=
  match blockHeader c.next.rest with
  | none => .error .malformed
  | some (header, rest) =>
    let c := (c.next.advance (c.next.rest.length - rest.length)).skipSpaces
    let comment := match c.rest with
      | '#' :: _ => c.rest.takeWhile fun d => !isBreak d
      | _ => []
    let c := c.advance comment.length
    if !(c.rest.isEmpty || c.rest.head?.any isBreak) then .error .malformed
    else
      let least : Nat := max 1 (parent + 1).toNat
      let c := c.next
      let fuel := c.rest.length + 1
      let (breaks, indent, c) := match header.indentation with
        | some n =>
          let indent := least + n - 1
          let (breaks, c) := blockBreaks indent fuel c
          (breaks, indent, c)
        | none =>
          let (breaks, widest, c) := blockStart fuel 0 c
          (breaks, max least widest, c)
      let (text, lineBreak, breaks, c) :=
        if c.column = indent ∧ !c.rest.isEmpty then blockLines folded indent fuel [] breaks c
        else ([], [], breaks, c)
      .ok ⟨match header.chomp with
        | .strip => text
        | .clip => text ++ lineBreak
        | .keep => text ++ lineBreak ++ breaks, c⟩

end CoinPuzzles.Yaml
