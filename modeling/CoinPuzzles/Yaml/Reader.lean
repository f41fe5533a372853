import CoinPuzzles.Yaml.Scalar

/-!
# Yaml/Reader — documents read from YAML text

Nested blocks are told apart by their columns: a map and a list begin at a column of their own, and
what belongs to an entry is further in.  Flow lists and maps stand between brackets on any lines.
Of equal keys the first keeps its place and the last its value.  Tags, anchors with their aliases,
merged keys and directives are not read: a text that has them counts as malformed here.  What is
done with documents elsewhere takes the reader as a parameter (`Reader`), so that it does not hang
on this.
-/

namespace CoinPuzzles.Yaml

/-- A value that has been read, and the place after it. -/
structure Parsed where
  value : Value
  after : Cursor

/-! ## Flow -/

/-- Whether a value can be the key of a map. -/
def isScalar : Value → Bool
  | .list _ => false
  | .map _ => false
  | _ => true

/-- The value of a scalar without quotes. -/
def plainValue (flow : Bool) (indent : Int) (c : Cursor) : Except YamlError Parsed :=
  let s := plainScalar flow indent c
  (resolve s.text).map fun v => ⟨v, s.after⟩

/-- The value of a scalar between quotes. -/
def quotedValue (double : Bool) (c : Cursor) : Except YamlError Parsed :=
  (quotedScalar double c).map fun s => ⟨.text (String.ofList s.text), s.after⟩

/-- Whether a colon stands here that makes what came before it on the line a key. -/
def colonAfter (line : Nat) (c : Cursor) : Bool := c.line == line && c.rest.head? == some ':'

mutual

/-- The value that begins here between brackets. -/
def flowNode : Nat → Cursor → Except YamlError Parsed
  | 0, _ => .error .malformed
  | fuel + 1, c =>
    if c.atMarker then .error .malformed
    else
      match c.rest with
      | '[' :: _ => (flowItems fuel [] c.next.skipGap).map fun (vs, c) => ⟨.list vs, c⟩
      | '\x7b' :: _ => (flowEntries fuel [] c.next.skipGap).map fun (es, c) => ⟨.map es, c⟩
      | '\x22' :: _ => quotedValue true c
      | '\x27' :: _ => quotedValue false c
      | s => if beginsPlain true s then plainValue true (-1) c else .error .malformed

/-- The value after a colon between brackets, null if there is none. -/
def flowValue : Nat → Cursor → Except YamlError Parsed
  | 0, _ => .error .malformed
  | fuel + 1, c =>
    let c := c.skipGap
    match c.rest with
    | ',' :: _ => .ok ⟨.null, c⟩
    | ']' :: _ => .ok ⟨.null, c⟩
    | '\x7d' :: _ => .ok ⟨.null, c⟩
    | _ => flowNode fuel c

/-- The items up to the closing bracket, put after those already read. -/
def flowItems : Nat → List Value → Cursor → Except YamlError (List Value × Cursor)
  | 0, _, _ => .error .malformed
  | fuel + 1, done, c =>
    match c.rest with
    | ']' :: _ => .ok (done, c.next)
    | _ => do
      let p ← flowNode fuel c
      let after := p.after.skipGap
      let p ← if colonAfter c.line after then
          if isScalar p.value then do
            let v ← flowValue fuel after.next
            pure (⟨.map [(p.value, v.value)], v.after.skipGap⟩ : Parsed)
          else .error .malformed
        else pure ⟨p.value, after⟩
      let done := done ++ [p.value]
      match p.after.rest with
      | ',' :: _ => flowItems fuel done p.after.next.skipGap
      | ']' :: _ => .ok (done, p.after.next)
      | _ => .error .malformed

/-- The entries up to the closing brace, put into those already read. -/
def flowEntries : Nat → List (Value × Value) → Cursor →
    Except YamlError (List (Value × Value) × Cursor)
  | 0, _, _ => .error .malformed
  | fuel + 1, done, c =>
    match c.rest with
    | '\x7d' :: _ => .ok (done, c.next)
    | _ => do
      let k ← flowNode fuel c
      if !isScalar k.value then .error .malformed
      let after := k.after.skipGap
      let v ← if colonAfter c.line after then flowValue fuel after.next
        else pure (⟨.null, after⟩ : Parsed)
      let done := Value.put k.value v.value done
      let after := v.after.skipGap
      match after.rest with
      | ',' :: _ => flowEntries fuel done after.next.skipGap
      | '\x7d' :: _ => .ok (done, after.next)
      | _ => .error .malformed

end

/-! ## Blocks -/

/-- A value that begins here and is no block of entries, inside a block of the given indentation. -/
def inlineNode (indent : Int) (c : Cursor) : Except YamlError Parsed :=
  match c.rest with
  | '[' :: _ => flowNode (2 * c.rest.length + 2) c
  | '\x7b' :: _ => flowNode (2 * c.rest.length + 2) c
  | '\x22' :: _ => quotedValue true c
  | '\x27' :: _ => quotedValue false c
  | '|' :: _ =>
    (blockScalar false indent c).map fun s => ⟨.text (String.ofList s.text), s.after⟩
  | '>' :: _ =>
    (blockScalar true indent c).map fun s => ⟨.text (String.ofList s.text), s.after⟩
  | s => if beginsPlain false s then plainValue false indent c else .error .malformed

/-- The text of a scalar on one line that a key can be, and the place after it. -/
def keyText? (c : Cursor) : Option (Except YamlError Parsed) :=
  match c.rest with
  | '\x22' :: _ => some (quotedValue true c)
  | '\x27' :: _ => some (quotedValue false c)
  | s =>
    if beginsPlain false s then
      let word := plainWord false s
      let s := plainRest false (-1) c.rest.length word (c.advance word.length)
      some ((resolve s.text).map fun v => ⟨v, s.after⟩)
    else none

/-- The key that begins here, and the place after its colon; nothing if this is no key. -/
def key? (c : Cursor) : Option (Except YamlError Parsed) :=
  match keyText? c with
  | some (.ok p) =>
    let after := p.after.skipSpaces
    if colonAfter c.line after && after.atIndicator ':' &&
        decide (c.rest.length - after.rest.length ≤ 1024) then
      some (.ok ⟨p.value, after.next⟩)
    else none
  | _ => if c.atIndicator ':' then some (.ok ⟨.null, c.next⟩) else none

/-- The place after a value, if its line ends there. -/
def closed (p : Parsed) : Except YamlError Parsed :=
  let after := p.after.skipGap
  if after.atEnd || after.fresh then .ok ⟨p.value, after⟩ else .error .malformed

mutual

/-- The value that begins here, inside a block of the given indentation; `opens` tells whether a
block of entries may begin here. -/
def blockNode : Nat → Bool → Int → Cursor → Except YamlError Parsed
  | 0, _, _, _ => .error .malformed
  | fuel + 1, opens, indent, c =>
    if c.atIndicator '-' then
      if opens then
        (blockItems fuel c.column [] c).map fun (vs, c) => ⟨.list vs, c⟩
      else .error .malformed
    else
      match if opens then key? c else none with
      | some _ => (blockEntries fuel c.column [] c).map fun (es, c) => ⟨.map es, c⟩
      | none => (inlineNode indent c).bind closed

/-- The value of an entry, after its mark: on the same line, on lines further in, or null.  A list
may begin at the column of the entry itself if `flush`. -/
def entryValue : Nat → Bool → Bool → Nat → Cursor → Except YamlError Parsed
  | 0, _, _, _, _ => .error .malformed
  | fuel + 1, opens, flush, column, c =>
    let start := c.skipGap
    if start.line == c.line && !start.atEnd then blockNode fuel opens column start
    else if start.atEnd then .ok ⟨.null, start⟩
    else if column < start.column then blockNode fuel true column start
    else if flush && start.column == column && start.atIndicator '-' then
      (blockItems fuel column [] start).map fun (vs, c) => ⟨.list vs, c⟩
    else .ok ⟨.null, start⟩

/-- The items that begin at a column, put after those already read. -/
def blockItems : Nat → Nat → List Value → Cursor → Except YamlError (List Value × Cursor)
  | 0, _, _, _ => .error .malformed
  | fuel + 1, column, done, c => do
    let p ← entryValue fuel true false column c.next
    let done := done ++ [p.value]
    if !p.after.atEnd && p.after.column == column && p.after.atIndicator '-' then
      blockItems fuel column done p.after
    else if p.after.atEnd || p.after.column ≤ column then return (done, p.after)
    else .error .malformed

/-- The entries that begin at a column, put into those already read. -/
def blockEntries : Nat → Nat → List (Value × Value) → Cursor →
    Except YamlError (List (Value × Value) × Cursor)
  | 0, _, _, _ => .error .malformed
  | fuel + 1, column, done, c =>
    match key? c with
    | none => .error .malformed
    | some k => do
      let k ← k
      let p ← entryValue fuel false true column k.after
      let done := Value.put k.value p.value done
      if p.after.atEnd || p.after.column < column then return (done, p.after)
      else if p.after.column == column then blockEntries fuel column done p.after
      else .error .malformed

end

/-! ## Documents -/

/-- The characters that may stand in a document. -/
def isAllowed (c : Char) : Bool :=
  let n := c.toNat
  n == 0x09 || n == 0x0A || n == 0x0D || (0x20 ≤ n && n ≤ 0x7E) || n == 0x85 ||
    (0xA0 ≤ n && n ≤ 0xFFFD) || 0x10000 ≤ n

/-- The place after the marker that starts a document, if there is one. -/
def afterStart (c : Cursor) : Cursor :=
  if c.atMarkerOf '-' then c.advance 3 else c

/-- Whether nothing but a marker of its end follows a document. -/
def nothingFollows (c : Cursor) : Bool :=
  let c := c.skipGap
  if c.atMarkerOf '.' then (c.advance 3).skipGap.rest.isEmpty else c.rest.isEmpty

/-- A reader of documents: the value that a text holds, or why it holds none. -/
abbrev Reader := String → Except YamlError Value

/-- The value of the one document of a text; an empty text is null. -/
def read : Reader := fun text =>
  let s := match text.toList with
    | '\ufeff' :: rest => rest
    | s => s
  if !s.all isAllowed then .error .malformed
  else
    let first := (Cursor.start s).skipGap
    let marked := afterStart first
    let c := marked.skipGap
    if c.atEnd then
      if nothingFollows c then .ok .null else .error .malformed
    else
      match blockNode (4 * s.length + 8) c.fresh (-1) c with
      | .error e => .error e
      | .ok p => if nothingFollows p.after then .ok p.value else .error .malformed

end CoinPuzzles.Yaml
