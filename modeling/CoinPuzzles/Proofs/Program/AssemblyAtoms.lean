import CoinPuzzles.Program.Assembly
import CoinPuzzles.Proofs.Bytes.HexDigits
import CoinPuzzles.Proofs.Bytes.TwosComplement
import CoinPuzzles.Proofs.Program.Encoding
import Mathlib.Data.List.Induction

/-!
# Proofs/Program/AssemblyAtoms — how long the atom of a token can be

Two hexadecimal digits make a byte and a character has at most four, so a token comes to no more
than four bytes for each of its characters.  Only a numeral can come to more, and those are limited:
`Token.Within.atomsWithin_atomOf`.
-/

namespace CoinPuzzles

open Program (sizeLimit)

/-! ## Numerals -/

namespace Numeral

theorem ofDigits_append (base : Nat) (ds : List Nat) (d : Nat) :
    ofDigits base (ds ++ [d]) = base * ofDigits base ds + d := by
  rw [ofDigits, List.foldl_append]
  rfl

/-- A number is below the power of ten with as many zeros as it has digits. -/
theorem ofDigits_lt {ds : List Nat} (h : ∀ d ∈ ds, d < 10) : ofDigits 10 ds < 10 ^ ds.length := by
  induction ds using List.reverseRecOn with
  | nil => exact Nat.one_pos
  | append_singleton ds d ih =>
    rw [List.forall_mem_append, List.forall_mem_singleton] at h
    have hds := ih h.1
    rw [ofDigits_append, List.length_append, List.length_singleton, Nat.pow_succ]
    omega

theorem lt_of_mem_takeDigits : ∀ {s rest : List Char} {inside : Bool} {ds : List Nat},
    takeDigits inside s = some (ds, rest) → ∀ d ∈ ds, d < 10
  | [], _, _, _, h, d, hd => by
    obtain ⟨rfl, rfl⟩ := Prod.mk.inj (Option.some.inj h)
    cases hd
  | c :: s, rest, inside, ds, h, d, hd => by
    rw [takeDigits] at h
    split at h
    · next digit hdigit =>
      obtain ⟨⟨ds', rest'⟩, htake, heq⟩ := Option.map_eq_some_iff.1 h
      obtain ⟨rfl, rfl⟩ := Prod.mk.inj heq
      rcases List.mem_cons.1 hd with rfl | hd
      · exact Text.digit?_lt hdigit
      · exact lt_of_mem_takeDigits htake d hd
    · split at h
      · split at h
        · exact lt_of_mem_takeDigits h d hd
        · cases h
      · obtain ⟨rfl, rfl⟩ := Prod.mk.inj (Option.some.inj h)
        cases hd

/-- **A numeral has no more digits than the limit.** -/
theorem natAbs_lt_of_read {text : String} {n : Int} (h : read text = .ok n) :
    n.natAbs < 10 ^ digitLimit := by
  rw [read] at h
  generalize takeSign (trimField text.toList) = signed at h
  obtain ⟨negative, s⟩ := signed
  dsimp only at h
  split at h
  · cases h
  · cases h
  · next ds rest _ htake =>
    split at h
    · cases h
    next hlimit =>
    split at h
    · have hds := ofDigits_lt (lt_of_mem_takeDigits htake)
      have hpow := Nat.pow_le_pow_right (show 0 < 10 by omega) (Nat.not_lt.1 hlimit)
      have habs : n.natAbs = ofDigits 10 ds := by
        obtain rfl := Except.ok.inj h
        cases negative <;> simp
      omega
    · cases h

end Numeral

/-! ## Bytes -/

namespace Bytes

/-- A number that fits into some bytes is written in these, with one more for the sign. -/
theorem length_ofUnsigned_le_succ {n width : Nat} (h : n < 256 ^ width) :
    (ofUnsigned n).length ≤ width + 1 := by
  have hshort := length_ofNat_le h
  rw [ofUnsigned]
  split
  · rw [List.length_cons]
    omega
  · omega

/-- A sign takes a byte more at most. -/
theorem length_ofInt_le {n : Int} {width : Nat} (h : n.natAbs < 256 ^ width) :
    (ofInt n).length ≤ width + 1 := by
  cases n with
  | ofNat n => exact length_ofUnsigned_le_succ h
  | negSucc k =>
    have hshort := length_ofUnsigned_le_succ (Nat.lt_of_succ_lt h)
    rw [ofInt]
    cases hwritten : ofUnsigned k with
    | nil => exact Nat.le_add_left 1 width
    | cons x b =>
      rw [hwritten] at hshort
      rwa [complement, List.length_map]
      exact List.cons_ne_nil x b

end Bytes

theorem Text.length_utf8Char_le (c : Char) : (utf8Char c).length ≤ 4 := by
  rw [utf8Char]
  split_ifs <;> simp

theorem Text.length_flatMap_utf8Char_le (s : List Char) :
    (s.flatMap utf8Char).length ≤ 4 * s.length := by
  induction s with
  | nil => exact Nat.le_refl 0
  | cons c s ih =>
    have hc := length_utf8Char_le c
    rw [List.flatMap_cons, List.length_append, List.length_cons]
    omega

/-! ## Tokens -/

namespace Assembly

/-- The atoms of a program are no longer than a text of `n` characters can make them. -/
def AtomsWithin (n : Nat) (p : Program) : Prop :=
  ∀ b ∈ p.atoms, b.length ≤ max (Numeral.digitLimit + 1) (4 * n)

/-- **A program of a text that is not huge can be written.** -/
theorem AtomsWithin.fits {n : Nat} {p : Program} (h : AtomsWithin n p) (hn : 4 * n < sizeLimit) :
    p.fits = true := by
  rw [Program.fits_iff]
  intro b hb
  have hnumeral : Numeral.digitLimit + 1 < sizeLimit := by decide
  exact lt_of_le_of_lt (h b hb) (max_lt hnumeral hn)

/-- A pair has the atoms of its two halves and no others. -/
theorem AtomsWithin.pair {n : Nat} {p q : Program} (hp : AtomsWithin n p) (hq : AtomsWithin n q) :
    AtomsWithin n (.pair p q) := by
  intro b hb
  rcases List.mem_append.1 hb with hb | hb
  · exact hp b hb
  · exact hq b hb

theorem atomsWithin_nil {n : Nat} : AtomsWithin n .nil := by
  intro b hb
  rw [List.mem_singleton.1 hb]
  exact Nat.zero_le _

theorem atomsWithin_atom {n : Nat} {b : Bytes} (h : b.length ≤ 4 * n) :
    AtomsWithin n (.atom b) := by
  intro c hc
  rw [List.mem_singleton.1 hc]
  exact h.trans (le_max_right _ _)

/-- A name becomes an atom of at most four bytes for each of its characters. -/
theorem length_symbol_le {s : List Char} (h : s ≠ []) : (symbol s).length ≤ 4 * s.length := by
  rw [symbol.eq_def]
  dsimp only
  split
  · have := List.length_pos_iff.2 h
    rw [List.length_singleton]
    omega
  · exact Text.length_flatMap_utf8Char_le s

theorem length_hexDigits? {s digits : List Char} (h : hexDigits? s = some digits) :
    s.length = digits.length + 2 := by
  rw [hexDigits?.eq_def] at h
  split at h
  · obtain rfl := Option.some.inj h
    rfl
  · obtain rfl := Option.some.inj h
    rfl
  · cases h

theorem length_quotedBody?_le {s body : List Char} (h : quotedBody? s = some body) :
    body.length ≤ s.length := by
  rw [quotedBody?.eq_def] at h
  split at h
  · next c d rest =>
    split at h
    · obtain rfl := Option.some.inj h
      rw [List.length_dropLast, List.length_cons, List.length_cons, List.length_cons]
      omega
    · cases h
  · cases h

/-- The token is not empty and has at most `n` characters. -/
structure Token.Within (n : Nat) (t : Token) : Prop where
  text_ne : t.text ≠ []
  length_le : t.text.length ≤ n

/-- **A token comes to an atom of at most four bytes for each character**, and only a numeral may
come to more. -/
theorem Token.Within.atomsWithin_atomOf {t : Token} {n : Nat} {p : Program} (ht : t.Within n)
    (h : atomOf t = .ok p) : AtomsWithin n p := by
  have hn := ht.length_le
  rw [atomOf] at h
  split at h
  · next z hread =>
    obtain rfl := Except.ok.inj h
    have hpow := Nat.pow_le_pow_left (show 10 ≤ 256 by omega) Numeral.digitLimit
    have hlength := Bytes.length_ofInt_le ((Numeral.natAbs_lt_of_read hread).trans_le hpow)
    intro b hb
    rw [List.mem_singleton.1 hb]
    exact hlength.trans (le_max_left _ _)
  · split at h
    · next digits hdigits =>
      have hlength := length_hexDigits? hdigits
      dsimp only at h
      split at h
      · next b hb =>
        obtain rfl := Except.ok.inj h
        have hpairs := Bytes.length_of_hexPairs? hb
        refine atomsWithin_atom ?_
        split at hpairs
        · rw [List.length_cons] at hpairs
          omega
        · omega
      · cases h
    · split at h
      · next body hbody =>
        obtain rfl := Except.ok.inj h
        have hlength := Text.length_flatMap_utf8Char_le body
        have hbody' := length_quotedBody?_le hbody
        exact atomsWithin_atom (by omega)
      · obtain rfl := Except.ok.inj h
        have hlength := length_symbol_le ht.text_ne
        exact atomsWithin_atom (by omega)

end Assembly

end CoinPuzzles
