import CoinPuzzles.Proofs.Bytes.HexDigits
import CoinPuzzles.Proofs.Outcome
import CoinPuzzles.Proofs.Text.Trimming

/-!
# Proofs/Bytes/HexGrammar — which texts are byte strings in hexadecimal digits

The grammar of hexadecimal texts, apart from the scan that reads them.  Blanks of Unicode are around
the text and at most one mark is in front (`IsUnmarked`).  What is left is cut into pieces, one for
each byte: its two digits, of either case, and the ASCII blanks after them (`SpellsByte`).  Main
statement: the readers take exactly the texts of the grammar and refuse every other, and what is
written is among them (`ofHex_grammar`).
-/

namespace CoinPuzzles.Bytes

variable {c : Char} {n : Nat} {s body : List Char} {b : Bytes} {text : String}

/-! ## Digits -/

def lowerDigits : List Char :=
  ['0', '1', '2', '3', '4', '5', '6', '7', '8', '9', 'a', 'b', 'c', 'd', 'e', 'f']

def upperDigits : List Char :=
  ['0', '1', '2', '3', '4', '5', '6', '7', '8', '9', 'A', 'B', 'C', 'D', 'E', 'F']

/-- The character is the digit of a number, of either case. -/
def DigitOf (n : Nat) (c : Char) : Prop := lowerDigits[n]? = some c ∨ upperDigits[n]? = some c

instance (n : Nat) (c : Char) : Decidable (DigitOf n c) :=
  inferInstanceAs (Decidable (_ ∨ _))

theorem hexValue?_of_row {row : List Char} (hrow : row.map hexValue? = (List.range 16).map some)
    (h : row[n]? = some c) : hexValue? c = some n := by
  have hentry : some (hexValue? c) = (List.range 16)[n]?.map some := by
    rw [← List.getElem?_map, ← hrow, List.getElem?_map, h, Option.map_some]
  obtain ⟨m, hm, hc⟩ := Option.map_eq_some_iff.1 hentry.symm
  obtain ⟨hn, rfl⟩ := List.getElem?_eq_some_iff.1 hm
  rw [← hc, List.getElem_range]

/-- **The reader of digits knows each digit by its place in the row.** -/
theorem hexValue?_eq_some_iff : hexValue? c = some n ↔ DigitOf n c := by
  constructor
  · intro h
    have htable : ∀ k < 128, ∀ n ∈ hexValue? (Char.ofNat k), DigitOf n (Char.ofNat k) := by decide
    have hbounds := isHexDigit_bounds (c := c) (by rw [isHexDigit, h]; rfl)
    have hentry := htable c.toNat (by omega) n
    rw [Char.ofNat_toNat] at hentry
    exact hentry h
  · rintro (h | h)
    · exact hexValue?_of_row (by decide) h
    · exact hexValue?_of_row (by decide) h

/-! ## Bytes -/

/-- The piece is the two digits of a byte and the ASCII blanks after them. -/
def SpellsByte (piece : List Char) (x : UInt8) : Prop :=
  ∃ high low gap, piece = high :: low :: gap ∧ DigitOf (x.toNat / 16) high ∧
    DigitOf (x.toNat % 16) low ∧ ∀ c ∈ gap, Text.isAsciiBlank c = true

/-- The text is a piece for each byte, and ASCII blanks in front of them. -/
def SpellsWhole (s : List Char) (b : Bytes) : Prop :=
  ∃ gap pieces, s = gap ++ pieces.flatten ∧ (∀ c ∈ gap, Text.isAsciiBlank c = true) ∧
    List.Forall₂ SpellsByte pieces b

/-- **Two digits are read as the byte they spell**, in front of any text. -/
theorem hexPairs?_digits {x : UInt8} {high low : Char} (hhigh : DigitOf (x.toNat / 16) high)
    (hlow : DigitOf (x.toNat % 16) low) (s : List Char) :
    hexPairs? (high :: low :: s) = (hexPairs? s).map (x :: ·) := by
  have hhigh := hexValue?_eq_some_iff.2 hhigh
  have hlow := hexValue?_eq_some_iff.2 hlow
  have hdigit : Text.isAsciiBlank high = false :=
    isAsciiBlank_of_isHexDigit (by rw [isHexDigit, hhigh]; rfl)
  have hx : 16 * (x.toNat / 16) + x.toNat % 16 = x.toNat := by omega
  rw [hexPairs?, hdigit, if_neg Bool.false_ne_true]
  simp only [hhigh, hlow, hx, UInt8.ofNat_toNat]

/-- The two digits of a number below 256 are those of its byte. -/
theorem digitOf_ofNat {high low : Nat} {c d : Char} (hc : hexValue? c = some high)
    (hd : hexValue? d = some low) :
    DigitOf ((UInt8.ofNat (16 * high + low)).toNat / 16) c ∧
      DigitOf ((UInt8.ofNat (16 * high + low)).toNat % 16) d := by
  have hhigh := hexValue?_lt hc
  have hlow := hexValue?_lt hd
  have hx : (UInt8.ofNat (16 * high + low)).toNat = 16 * high + low := by
    rw [UInt8.toNat_ofNat']
    omega
  have hdiv : (16 * high + low) / 16 = high := by omega
  have hmod : (16 * high + low) % 16 = low := by omega
  rw [hx, hdiv, hmod]
  exact ⟨hexValue?_eq_some_iff.1 hc, hexValue?_eq_some_iff.1 hd⟩

/-- **The scan finds the pieces of a text.** -/
theorem spellsWhole_of_hexPairs? : ∀ {s : List Char} {b : Bytes}, hexPairs? s = some b →
    SpellsWhole s b
  | [], _, h => by
    obtain rfl := Option.some.inj h
    exact ⟨[], [], rfl, by simp, .nil⟩
  | c :: s, b, h => by
    rw [hexPairs?.eq_def] at h
    dsimp only at h
    split at h
    · next hblank =>
      -- a blank that is met here stands in front of all the pieces to come
      obtain ⟨gap, pieces, rfl, hgap, hpieces⟩ := spellsWhole_of_hexPairs? h
      exact ⟨c :: gap, pieces, rfl, List.forall_mem_cons.2 ⟨hblank, hgap⟩, hpieces⟩
    split at h
    · cases h
    next d s =>
    split at h
    · next high low hhigh hlow =>
      obtain ⟨bs, hbs, rfl⟩ := Option.map_eq_some_iff.1 h
      obtain ⟨gap, pieces, rfl, hgap, hpieces⟩ := spellsWhole_of_hexPairs? hbs
      obtain ⟨hc, hd⟩ := digitOf_ofNat hhigh hlow
      exact ⟨[], (c :: d :: gap) :: pieces, rfl, by simp,
        .cons ⟨c, d, gap, rfl, hc, hd, hgap⟩ hpieces⟩
    · cases h

/-- **Pieces that spell one byte each spell all of them together**, by induction on the pieces. -/
theorem hexPairs?_flatten {pieces : List (List Char)} (h : List.Forall₂ SpellsByte pieces b) :
    hexPairs? pieces.flatten = some b := by
  induction h with
  | nil => rfl
  | cons hpiece _ ih =>
    obtain ⟨high, low, gap, rfl, hhigh, hlow, hgap⟩ := hpiece
    rw [List.flatten_cons, List.cons_append, List.cons_append, hexPairs?_digits hhigh hlow,
      hexPairs?_append hgap, ih, Option.map_some]

/-- **The scan reads exactly the sequences of whole bytes.** -/
theorem hexPairs?_eq_some_iff : hexPairs? s = some b ↔ SpellsWhole s b := by
  constructor
  · exact spellsWhole_of_hexPairs?
  · rintro ⟨gap, pieces, rfl, hgap, hpieces⟩
    rw [hexPairs?_append hgap, hexPairs?_flatten hpieces]

/-! ## Texts -/

/-- `body` is the text without the mark in front of it, or all of a text that has none. -/
def IsUnmarked (s body : List Char) : Prop :=
  (∃ mark ∈ marks, s = mark ++ body) ∨ ((∀ mark ∈ marks, ¬ mark <+: s) ∧ s = body)

/-- **Taking the mark off leaves what stands unmarked**: the rest behind a mark, or all of it. -/
theorem unmark_eq_iff : unmark s = body ↔ IsUnmarked s body := by
  constructor
  · rintro rfl
    by_cases hmark : ∃ mark ∈ marks, mark <+: s
    · obtain ⟨mark, hmem, rest, rfl⟩ := hmark
      exact .inl ⟨mark, hmem, by rw [unmark_append hmem]⟩
    · push Not at hmark
      obtain hself | ⟨mark, hmem, hs⟩ := unmark_eq_self_or s
      · exact .inr ⟨hmark, hself.symm⟩
      · exact absurd ⟨_, hs.symm⟩ (hmark mark hmem)
  · rintro (⟨mark, hmem, rfl⟩ | ⟨hnone, rfl⟩)
    · exact unmark_append hmem body
    · obtain hself | ⟨mark, hmem, hs⟩ := unmark_eq_self_or s
      · exact hself
      · exact absurd ⟨_, hs.symm⟩ (hnone mark hmem)

/-- The text is the byte string in hexadecimal digits: without the blanks around it and then without
a mark it is a sequence of whole bytes. -/
def Spells (text : String) (b : Bytes) : Prop :=
  ∃ s body, Text.IsTrimmed text.toList s ∧ IsUnmarked s body ∧ SpellsWhole body b

/-- **A text is read as bytes exactly if it spells them.** -/
theorem ofHex?_eq_some_iff : ofHex? text = some b ↔ Spells text b := by
  rw [ofHex?, hexPairs?_eq_some_iff]
  constructor
  · intro h
    exact ⟨_, _, Text.trim_eq_iff.1 rfl, unmark_eq_iff.1 rfl, h⟩
  · rintro ⟨s, body, hs, hbody, h⟩
    rwa [Text.trim_eq_iff.2 hs, unmark_eq_iff.2 hbody]

theorem ofHex_eq_ok_iff : ofHex text = .ok b ↔ Spells text b := by
  rw [← ofHex?_eq_some_iff, ofHex]
  cases ofHex? text <;> simp

/-- **A text is refused exactly if it spells no bytes**, and the refusal shows it. -/
theorem ofHex_eq_error_iff {e : HexError} :
    ofHex text = .error e ↔ (∀ b, ¬ Spells text b) ∧ e = .invalid text := by
  simp only [← ofHex?_eq_some_iff, ofHex]
  cases ofHex? text <;> simp [eq_comm]

theorem ofHexSized_eq_ok_iff {size : Nat} :
    ofHexSized size text = .ok b ↔ Spells text b ∧ b.length = size := by
  rw [← ofHex_eq_ok_iff, ofHexSized]
  cases ofHex text with
  | error e => simp
  | ok c =>
    simp only [Except.ok.injEq]
    split
    · next hsize =>
      rw [Except.ok.injEq]
      exact ⟨fun h => ⟨h, h ▸ hsize⟩, And.left⟩
    · next hsize =>
      simp only [reduceCtorEq, false_iff, not_and]
      rintro rfl
      exact hsize

/-- **With a size there are two refusals**: a text that spells nothing, and one that spells the
wrong number of bytes. -/
theorem ofHexSized_eq_error_iff {size : Nat} {e : HexError} :
    ofHexSized size text = .error e ↔ ((∀ b, ¬ Spells text b) ∧ e = .invalid text) ∨
      ∃ b, Spells text b ∧ b.length ≠ size ∧ e = .wrongLength size b.length text := by
  rw [← ofHex_eq_error_iff]
  simp only [← ofHex_eq_ok_iff, ofHexSized]
  cases ofHex text with
  | error e' => simp
  | ok c =>
    simp only [reduceCtorEq, false_or, Except.ok.injEq, exists_eq_left']
    split
    · next hsize => simp [hsize]
    · next hsize => simp [hsize, eq_comm]

/-- No text of digits has a mark, so one is put in front. -/
theorem mark_hexChars (b : Bytes) : mark (hexChars b) = '0' :: 'x' :: hexChars b := by
  rw [mark.eq_def]
  split
  · next rest hb =>
    have hx : 'x' ∈ hexChars b := by rw [hb]; simp
    exact absurd (isHexDigit_of_mem_hexChars hx) (by decide)
  · rfl

theorem ofList_mark_toHex (b : Bytes) : String.ofList (mark (toHex b).toList) = toMarkedHex b := by
  rw [← String.toList_inj, String.toList_ofList, toList_toMarkedHex, toHex, String.toList_ofList,
    mark_hexChars]

/-- **The readers take exactly the texts of the grammar.**  A text that spells no bytes is refused
as such, and one that spells too few or too many by a reader that asks for a number of them; there
is no other refusal.  The digits of a byte string, with a mark in front, are read as that string. -/
theorem ofHex_grammar :
    (∀ text b, ofHex text = .ok b ↔ Spells text b) ∧
    (∀ text e, ofHex text = .error e ↔ (∀ b, ¬ Spells text b) ∧ e = .invalid text) ∧
    (∀ size text b, ofHexSized size text = .ok b ↔ Spells text b ∧ b.length = size) ∧
    (∀ size text e, ofHexSized size text = .error e ↔
      ((∀ b, ¬ Spells text b) ∧ e = .invalid text) ∨
        ∃ b, Spells text b ∧ b.length ≠ size ∧ e = .wrongLength size b.length text) ∧
    ∀ b, ofHex (String.ofList (mark (toHex b).toList)) = .ok b :=
  ⟨fun _ _ => ofHex_eq_ok_iff, fun _ _ => ofHex_eq_error_iff, fun _ _ _ => ofHexSized_eq_ok_iff,
    fun _ _ _ => ofHexSized_eq_error_iff,
    fun b => by rw [ofList_mark_toHex, ofHex_toMarkedHex]⟩

/-- Wide blanks around a text and ASCII blanks between its bytes are dropped. -/
example : ofHex "\u3000\n0X0a \tfF " = .ok [10, 255] := by cbv

/-- The two digits of a byte stand together. -/
example : ofHex "0x0 a" = .error (.invalid "0x0 a") := by cbv

end CoinPuzzles.Bytes
