import CoinPuzzles.Coin.Document
import CoinPuzzles.Proofs.Bytes.HexGrammar
import CoinPuzzles.Proofs.Number.Numerals
import CoinPuzzles.Proofs.Number.WholePart
import CoinPuzzles.Proofs.Outcome
import CoinPuzzles.Proofs.Text.Trimming

/-!
# Proofs/Value/Scalars — which values spell byte strings, and which stand for numbers

Only texts and natural numbers can spell byte strings (`Value.toBytes_eq_ok_iff`): the text of every
other value has a character that no hexadecimal text has.  An amount is a number, whatever kind of
value it is (`Value.Denotes`), and the reader takes its whole part (`Value.toInteger_eq_ok_iff`).
-/

namespace CoinPuzzles

/-! ## Characters of hexadecimal texts -/

namespace Bytes

/-- Whether a character stands in no hexadecimal text: it is no digit, no blank and no letter of a
mark. -/
def isStray (c : Char) : Bool :=
  !isHexDigit c && !Text.isBlank c && c != 'x' && c != 'X'

theorem mem_unmark {s : List Char} {c : Char} (h : c ∈ s) (hc : isStray c = true) :
    c ∈ unmark s := by
  rw [unmark.eq_def]
  split
  · rcases List.mem_cons.1 h with rfl | h
    · exact absurd hc (by decide)
    · rcases List.mem_cons.1 h with rfl | h
      · exact absurd hc (by decide)
      · exact h
  · rcases List.mem_cons.1 h with rfl | h
    · exact absurd hc (by decide)
    · rcases List.mem_cons.1 h with rfl | h
      · exact absurd hc (by decide)
      · exact h
  · exact h

theorem mem_trim {s : List Char} {c : Char} (h : c ∈ s) (hc : Text.isBlank c = false) :
    c ∈ Text.trim s := by
  obtain ⟨before, after, heq, hbefore, hafter⟩ := Text.exists_dropAround (p := Text.isBlank) s
  rw [heq, List.mem_append, List.mem_append] at h
  obtain h | h | h := h
  · exact absurd (hbefore c h) (Bool.eq_false_iff.1 hc)
  · exact h
  · exact absurd (hafter c h) (Bool.eq_false_iff.1 hc)

/-- **A text that spells bytes has no stray character.** -/
theorem isStray_of_ofHex {text : String} {b : Bytes} (h : ofHex text = .ok b) {c : Char}
    (hc : c ∈ text.toList) : isStray c = false := by
  refine Bool.eq_false_iff.2 fun hstray => ?_
  obtain ⟨⟨⟨hdigit, hblank⟩, -⟩, -⟩ : ((isHexDigit c = false ∧ Text.isBlank c = false) ∧ c ≠ 'x') ∧
      c ≠ 'X' := by
    simpa [isStray] using hstray
  rw [ofHex] at h
  split at h
  · next read hread =>
    obtain hc | hc := isHexDigit_or_isAsciiBlank hread c (mem_unmark (mem_trim hc hblank) hstray)
    · exact absurd hc (Bool.eq_false_iff.1 hdigit)
    · exact absurd (Text.isBlank_of_isAsciiBlank hc) (Bool.eq_false_iff.1 hblank)
  · exact absurd h Outcome.error_ne_ok

/-- The text has a character that no hexadecimal text has. -/
def HasStray (text : String) : Prop := ∃ c ∈ text.toList, isStray c = true

/-- **A text with a stray character spells no bytes**, marked and trimmed or not. -/
theorem HasStray.ofHex_ne {text : String} (h : HasStray text) {b : Bytes} : ofHex text ≠ .ok b := by
  obtain ⟨c, hc, hstray⟩ := h
  intro hread
  exact absurd hstray (Bool.eq_false_iff.1 (isStray_of_ofHex hread hc))

theorem HasStray.append_left {s : String} (h : HasStray s) (t : String) : HasStray (s ++ t) := by
  obtain ⟨c, hc, hstray⟩ := h
  exact ⟨c, by rw [String.toList_append]; exact List.mem_append_left _ hc, hstray⟩

theorem HasStray.append_right {t : String} (h : HasStray t) (s : String) : HasStray (s ++ t) := by
  obtain ⟨c, hc, hstray⟩ := h
  exact ⟨c, by rw [String.toList_append]; exact List.mem_append_right _ hc, hstray⟩

end Bytes

open Bytes (HasStray)

/-! ## Which values spell byte strings -/

theorem Binary64.hasStray_exponentText (n : Int) : HasStray (exponentText n) := by
  refine HasStray.append_left ?_ _
  split
  · exact ⟨'-', by decide, by decide⟩
  · exact ⟨'+', by decide, by decide⟩

theorem Binary64.hasStray_placePoint (digits : List Char) (point : Int) :
    HasStray (placePoint digits point) := by
  rw [placePoint]
  dsimp only
  split
  · split
    · exact ⟨'.', by simp, by decide⟩
    · exact ⟨'.', by simp, by decide⟩
  · exact HasStray.append_right (hasStray_exponentText _) _

/-- The text of a number has a point, the sign of an exponent or a letter of a word. -/
theorem Binary64.hasStray_toText (x : Binary64) : HasStray x.toText := by
  cases x with
  | nan => exact ⟨'n', by decide, by decide⟩
  | infinite negative => cases negative <;> exact ⟨'n', by decide, by decide⟩
  | finite negative m e =>
    rw [toText]
    dsimp only
    split
    · exact HasStray.append_right ⟨'.', by decide, by decide⟩ _
    · exact HasStray.append_right (hasStray_placePoint _ _) _

/-- The year of a date is followed by a dash. -/
theorem Calendar.hasStray_dateText (year month day : Nat) :
    HasStray (dateText year month day) := by
  have hdash : HasStray "-" := ⟨'-', by decide, by decide⟩
  exact (((hdash.append_right _).append_left _).append_left _).append_left _

theorem Moment.hasStray_text (m : Moment) : HasStray m.text := by
  have hday (rest : String) :
      HasStray (Calendar.dateText m.year m.month m.day ++ " " ++ rest) :=
    ((Calendar.hasStray_dateText m.year m.month m.day).append_left _).append_left _
  rw [text]
  split <;> simpa only [String.append_assoc] using hday _

/-- A quoted byte string starts with its quote. -/
theorem Text.hasStray_quotedBytes (b : Bytes) : HasStray (quotedBytes b) := by
  refine ⟨quoteFor (b.map fun x => Char.ofNat x.toNat), ?_, ?_⟩
  · rw [quotedBytes, String.toList_ofList]
    exact List.mem_cons_of_mem _ List.mem_cons_self
  · rw [quoteFor]
    split <;> decide

namespace Value

/-- **An integer has a text exactly if it has no more digits than can be shown.** -/
theorem isWritable_int_iff {n : Int} :
    (int n).isWritable = true ↔ n.natAbs < 10 ^ Numeral.digitLimit := by
  rw [isWritable]
  cases hwrite : Numeral.write n with
  | ok s => exact iff_of_true rfl (Numeral.write_eq_ok_iff.1 hwrite).1
  | error e => exact iff_of_false Bool.false_ne_true (Numeral.write_eq_error_iff.1 hwrite).1.not_gt

/-- A byte string is read from a value that has a text, and from nothing but that text. -/
theorem toBytes_eq_ok_iff_ofHex {v : Value} {b : Bytes} :
    v.toBytes = .ok b ↔ v.isWritable = true ∧ Bytes.ofHex v.display = .ok b := by
  simp only [toBytes, Outcome.bind_eq_ok_iff, Outcome.mapError_eq_ok_iff, write_eq_ok_iff,
    and_assoc, exists_and_left, exists_eq_left']

/-- **The size is asked for on top**: what is read as a byte string of a size is what is read as a
byte string at all, where it has that size. -/
theorem toBytesSized_eq_ok_iff {size : Nat} {v : Value} {b : Bytes} :
    v.toBytesSized size = .ok b ↔ v.toBytes = .ok b ∧ b.length = size := by
  simp only [toBytes_eq_ok_iff_ofHex, toBytesSized, Outcome.bind_eq_ok_iff,
    Outcome.mapError_eq_ok_iff, write_eq_ok_iff, Bytes.ofHexSized_eq_ok_iff, Bytes.ofHex_eq_ok_iff,
    and_assoc, exists_and_left, exists_eq_left']

/-- The value spells the byte string: it is a text, or a natural number that has a numeral, and its
text is in hexadecimal digits. -/
inductive Spells : Value → Bytes → Prop
  | text {s : String} {b : Bytes} (h : Bytes.ofHex s = .ok b) : Spells (text s) b
  | natural {n : Nat} {b : Bytes} (hsize : n < 10 ^ Numeral.digitLimit)
      (h : Bytes.ofHex (toString n) = .ok b) : Spells (int n) b

/-- **A byte string is read from exactly the values that spell it.** -/
theorem toBytes_eq_ok_iff {v : Value} {b : Bytes} : v.toBytes = .ok b ↔ v.Spells b := by
  rw [toBytes_eq_ok_iff_ofHex]
  constructor
  swap
  · intro h
    cases h with
    | text h => exact ⟨rfl, h⟩
    | natural hsize h => exact ⟨isWritable_int_iff.2 hsize, h⟩
  rintro ⟨hwritable, h⟩
  have hno (hstray : HasStray v.display) : v.Spells b := absurd h hstray.ofHex_ne
  cases v with
  | text s => exact .text h
  | int n =>
    cases n with
    | ofNat n => exact .natural (isWritable_int_iff.1 hwritable) h
    | negSucc n => exact hno (HasStray.append_left ⟨'-', by decide, by decide⟩ (Nat.repr (n + 1)))
  | bytes s => exact hno (Text.hasStray_quotedBytes s)
  | moment m => exact hno m.hasStray_text
  | null => exact hno ⟨'N', by decide +kernel, by decide⟩
  | bool t =>
    cases t with
    | true => exact hno ⟨'T', by decide +kernel, by decide⟩
    | false => exact hno ⟨'s', by decide +kernel, by decide⟩
  | float x => exact hno x.hasStray_toText
  | date y m d => exact hno (Calendar.hasStray_dateText y m d)
  | list items =>
    have hopen : HasStray "[" := ⟨'[', by decide, by decide⟩
    exact hno ((hopen.append_left _).append_left _)
  | map entries =>
    have hopen : HasStray "\x7b" := ⟨'\x7b', by decide, by decide⟩
    exact hno ((hopen.append_left _).append_left _)

/-! ## Which numbers values stand for -/

/-- The number that a value stands for as an amount. -/
inductive Denotes : Value → ℚ → Prop
  | no : Denotes (bool false) 0
  | yes : Denotes (bool true) 1
  | int (n : Int) : Denotes (int n) n
  | float {x : Binary64} {r : ℚ} (h : x.toRat? = some r) : Denotes (float x) r
  | numeral {s : String} {n : Int} (h : Numeral.Spells s.toList n) : Denotes (text s) n
  | ascii {b : Bytes} {s : String} {n : Int} (hascii : b.toAscii? = some s)
      (h : Numeral.Spells s.toList n) : Denotes (bytes b) n

/-- **A value denotes at most one number**, by the kind of the value. -/
theorem Denotes.unique {v : Value} {r r' : ℚ} (h : v.Denotes r) (h' : v.Denotes r') : r = r' := by
  cases h with
  | no => cases h'; rfl
  | yes => cases h'; rfl
  | int n => cases h'; rfl
  | float h =>
    cases h' with
    | float h' => exact Option.some.inj (h.symm.trans h')
  | numeral h =>
    cases h' with
    | numeral h' =>
      have hread := (Numeral.read_of_spells h).symm.trans (Numeral.read_of_spells h')
      rw [Except.ok.inj hread]
  | ascii hascii h =>
    cases h' with
    | ascii hascii' h' =>
      obtain rfl := Option.some.inj (hascii.symm.trans hascii')
      have hread := (Numeral.read_of_spells h).symm.trans (Numeral.read_of_spells h')
      rw [Except.ok.inj hread]

/-- A float is cut to its whole part, and one that is no number is refused. -/
theorem toInteger_float_eq_ok_iff {x : Binary64} {n : Int} :
    (float x).toInteger = .ok n ↔ ∃ r, x.toRat? = some r ∧ wholePart r = n := by
  cases x with
  | finite negative m e =>
    change Except.ok ((Binary64.finite negative m e).truncate?.getD 0) = Except.ok n ↔ _
    rw [Binary64.truncate?_eq, Except.ok.injEq, ← Option.map_eq_some_iff, Binary64.toRat?,
      Option.map_some, Option.getD_some, Option.some_inj]
  | infinite negative => exact iff_of_false Outcome.error_ne_ok (by rintro ⟨r, ⟨⟩, -⟩)
  | nan => exact iff_of_false Outcome.error_ne_ok (by rintro ⟨r, ⟨⟩, -⟩)

/-- **The integer that is read from a value is the whole part of the number it stands for.** -/
theorem toInteger_eq_ok_iff {v : Value} {n : Int} :
    v.toInteger = .ok n ↔ ∃ r, v.Denotes r ∧ wholePart r = n := by
  constructor
  · intro h
    cases v with
    | bool t =>
      obtain rfl := Except.ok.inj h
      cases t with
      | false => exact ⟨0, .no, by exact_mod_cast wholePart_intCast 0⟩
      | true => exact ⟨1, .yes, by exact_mod_cast wholePart_intCast 1⟩
    | int m =>
      obtain rfl := Except.ok.inj h
      exact ⟨m, .int m, wholePart_intCast m⟩
    | text s =>
      rw [toInteger, Outcome.mapError_eq_ok_iff, Numeral.read_eq_ok_iff] at h
      exact ⟨n, .numeral h, wholePart_intCast n⟩
    | float x =>
      obtain ⟨r, hr, hn⟩ := toInteger_float_eq_ok_iff.1 h
      exact ⟨r, .float hr, hn⟩
    | bytes b =>
      rw [toInteger, Outcome.mapError_eq_ok_iff, Numeral.readBytes_eq_ok_iff] at h
      obtain ⟨s, hascii, h⟩ := h
      exact ⟨n, .ascii hascii h, wholePart_intCast n⟩
    | null => exact absurd h Outcome.error_ne_ok
    | date y m d => exact absurd h Outcome.error_ne_ok
    | moment m => exact absurd h Outcome.error_ne_ok
    | list items => exact absurd h Outcome.error_ne_ok
    | map entries => exact absurd h Outcome.error_ne_ok
  · rintro ⟨r, h, rfl⟩
    cases h with
    | no => exact congrArg _ (by exact_mod_cast (wholePart_intCast 0).symm)
    | yes => exact congrArg _ (by exact_mod_cast (wholePart_intCast 1).symm)
    | int m => rw [wholePart_intCast]; rfl
    | float h => exact toInteger_float_eq_ok_iff.2 ⟨r, h, rfl⟩
    | numeral h =>
      rw [wholePart_intCast, toInteger, Outcome.mapError_eq_ok_iff]
      exact Numeral.read_of_spells h
    | ascii hascii h =>
      rw [wholePart_intCast, toInteger, Outcome.mapError_eq_ok_iff, Numeral.readBytes_eq_ok_iff]
      exact ⟨_, hascii, h⟩

end Value

end CoinPuzzles
