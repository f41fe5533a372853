import CoinPuzzles.Program.Codec
import CoinPuzzles.Proofs.Bytes.BigEndian
import CoinPuzzles.Proofs.Outcome
import Mathlib.Tactic.IntervalCases

/-!
# Proofs/Program/Spelling — the byte strings that spell a program

`Spells b p` says, without the reader, that `b` is one whole spelling of `p`: the byte `ff` and two
spellings, a byte below `80`, or a size prefix of any width and as many bytes.

* `parseSized_eq_ok_iff` — an atom with a size is a prefix and as many bytes as it announces.
* `ofBytes_eq_ok_iff` — the reader accepts exactly the spellings.
* `Spells.append_inj` — no spelling goes on in another, so a spelling has one program.
-/

namespace CoinPuzzles.Program

open Bytes (toNat_cons toNat_lt)

/-! ## Size prefixes

A prefix of `width` bytes starts with `width` one bits and a zero; the other bits are the size. -/

/-- The number that a prefix of `width` bytes spells for the size zero. -/
def sizeMark (width : Nat) : Nat := (256 - 2 ^ (8 - width)) * 256 ^ (width - 1)

/-- `mark` is a size prefix of `size`, of any of the seven widths. -/
structure Announces (mark : Bytes) (size : Nat) : Prop where
  width_pos : 1 ≤ mark.length
  width_le : mark.length ≤ 7
  toNat_mark : mark.toNat = sizeMark mark.length + size
  size_fits : size < 2 ^ (7 * mark.length - 1)
  size_lt : size < sizeLimit

/-- The number of leading ones of a byte as the range that the byte is in. -/
theorem leadingOnes_eq_iff {x width : Nat} (hpos : 1 ≤ width) (hle : width ≤ 7) :
    leadingOnes x = width ↔ 256 - 2 ^ (8 - width) ≤ x ∧ x < 256 - 2 ^ (7 - width) := by
  simp only [leadingOnes]
  interval_cases width <;> grind

theorem leadingOnes_bounds {x : UInt8} (hx : 0x80 ≤ x.toNat) (hpair : x ≠ 0xFF) :
    1 ≤ leadingOnes x.toNat ∧ leadingOnes x.toNat ≤ 7 := by
  have hlt : x.toNat < 0xFF := by
    have hne : x.toNat ≠ 0xFF := fun h => hpair (UInt8.toNat_inj.1 h)
    have := x.toNat_lt
    omega
  simp only [leadingOnes]
  grind

/-- **A prefix splits into its one bits and its size** — the first byte carries the width, and what
it has left stands in front of the other bytes. -/
theorem sizeMark_add_iff {x more size width : Nat} (hx : x < 256) (hpos : 1 ≤ width)
    (hle : width ≤ 7) (hmore : more < 256 ^ (width - 1)) :
    x * 256 ^ (width - 1) + more = sizeMark width + size ∧ size < 2 ^ (7 * width - 1) ↔
      leadingOnes x = width ∧ x % 2 ^ (8 - width) * 256 ^ (width - 1) + more = size := by
  rw [leadingOnes_eq_iff hpos hle, sizeMark]
  interval_cases width <;> simp only [Nat.reduceSub, Nat.reducePow, Nat.reduceMul] at hmore ⊢ <;>
    omega

/-- The size that the reader takes from a prefix. -/
theorem announces_cons_iff {x : UInt8} {more : Bytes} {size : Nat} :
    Announces (x :: more) size ↔
      more.length ≤ 6 ∧ leadingOnes x.toNat = more.length + 1 ∧
        Bytes.toNat (UInt8.ofNat (x.toNat % 2 ^ (8 - (more.length + 1))) :: more) = size ∧
        size < sizeLimit := by
  have hlow : (UInt8.ofNat (x.toNat % 2 ^ (8 - (more.length + 1)))).toNat =
      x.toNat % 2 ^ (8 - (more.length + 1)) := by
    have hx := x.toNat_lt
    have hle := Nat.mod_le x.toNat (2 ^ (8 - (more.length + 1)))
    rw [UInt8.toNat_ofNat', Nat.mod_eq_of_lt (by omega)]
  rw [toNat_cons, hlow]
  constructor
  · rintro ⟨hpos, hle, hmark, hfits, hlt⟩
    rw [List.length_cons] at hpos hle hmark hfits
    rw [toNat_cons] at hmark
    have hsplit := (sizeMark_add_iff x.toNat_lt hpos hle (toNat_lt more)).1 ⟨hmark, hfits⟩
    exact ⟨by omega, hsplit.1, hsplit.2, hlt⟩
  · rintro ⟨hle, hwidth, hsize, hlt⟩
    have hsplit := (sizeMark_add_iff x.toNat_lt (by omega) (by omega) (toNat_lt more)).2
      ⟨hwidth, hsize⟩
    refine ⟨by rw [List.length_cons]; omega, by rw [List.length_cons]; omega, ?_, ?_, hlt⟩
    · rw [toNat_cons, List.length_cons]
      exact hsplit.1
    · rw [List.length_cons]
      exact hsplit.2

/-- What is read of an atom with a size starts with a prefix. -/
theorem exists_announces_of_parseSized {x : UInt8} {rest b tail : Bytes} (hx : 0x80 ≤ x.toNat)
    (hpair : x ≠ 0xFF) (h : parseSized x rest = .ok (b, tail)) :
    ∃ more, Announces (x :: more) b.length ∧ rest = more ++ (b ++ tail) := by
  obtain ⟨hpos, hle⟩ := leadingOnes_bounds hx hpair
  simp only [parseSized] at h
  split at h
  · exact absurd h Outcome.error_ne_ok
  next hmore =>
  split at h
  · exact absurd h Outcome.error_ne_ok
  next hlimit =>
  split at h
  · exact absurd h Outcome.error_ne_ok
  next hbody =>
  obtain ⟨rfl, rfl⟩ := Prod.mk.inj (Except.ok.inj h)
  have hlen : (rest.take (leadingOnes x.toNat - 1)).length + 1 = leadingOnes x.toNat := by
    rw [List.length_take] at hmore ⊢
    omega
  refine ⟨rest.take (leadingOnes x.toNat - 1), ?_, ?_⟩
  · rw [List.length_take, Nat.min_eq_left (Nat.not_lt.1 hbody), announces_cons_iff, hlen]
    exact ⟨by omega, rfl, rfl, Nat.not_le.1 hlimit⟩
  · rw [List.take_append_drop, List.take_append_drop]

/-- As many bytes as a prefix announces are read, whatever follows them. -/
theorem Announces.parseSized_append {x : UInt8} {more b : Bytes}
    (h : Announces (x :: more) b.length) (tail : Bytes) :
    parseSized x (more ++ (b ++ tail)) = .ok (b, tail) := by
  obtain ⟨-, hwidth, hsize, hlt⟩ := announces_cons_iff.1 h
  have htake : (more ++ (b ++ tail)).take (leadingOnes x.toNat - 1) = more := by
    rw [hwidth, Nat.add_sub_cancel, List.take_left]
  have hdrop : (more ++ (b ++ tail)).drop (leadingOnes x.toNat - 1) = b ++ tail := by
    rw [hwidth, Nat.add_sub_cancel, List.drop_left]
  rw [← hwidth] at hsize
  simp only [parseSized, htake, hdrop, Nat.pow_eq, hsize]
  rw [if_neg (by omega), if_neg (by omega), if_neg (by simp), List.take_left, List.drop_left]

/-- **Reading an atom with a size takes a prefix and as many bytes as it announces.** -/
theorem parseSized_eq_ok_iff {x : UInt8} {rest b tail : Bytes} (hx : 0x80 ≤ x.toNat)
    (hpair : x ≠ 0xFF) :
    parseSized x rest = .ok (b, tail) ↔
      ∃ more, Announces (x :: more) b.length ∧ rest = more ++ (b ++ tail) := by
  refine ⟨exists_announces_of_parseSized hx hpair, ?_⟩
  rintro ⟨more, hmark, rfl⟩
  exact hmark.parseSized_append tail

/-- A prefix begins with a byte that stands neither for itself nor for a pair. -/
theorem Announces.exists_cons {mark : Bytes} {size : Nat} (h : Announces mark size) :
    ∃ x more, mark = x :: more ∧ 0x80 ≤ x.toNat ∧ x ≠ 0xFF := by
  obtain ⟨x, more, rfl⟩ := List.exists_cons_of_length_pos h.width_pos
  obtain ⟨hle, hwidth, -⟩ := announces_cons_iff.1 h
  obtain ⟨hlow, hhigh⟩ := (leadingOnes_eq_iff (by omega) (by omega)).1 hwidth
  have hhalf : 2 ^ (8 - (more.length + 1)) ≤ 2 ^ 7 := Nat.pow_le_pow_right (by omega) (by omega)
  refine ⟨x, more, rfl, by omega, ?_⟩
  rintro rfl
  have := Nat.two_pow_pos (7 - (more.length + 1))
  rw [show (0xFF : UInt8).toNat = 255 from rfl] at hhigh
  omega

/-! ## Spellings -/

/-- The byte string is one whole spelling of the program. -/
inductive Spells : Bytes → Program → Prop where
  /-- A byte below `80` stands for itself. -/
  | byte {x : UInt8} (small : x.toNat < 0x80) : Spells [x] (atom [x])
  /-- Any bytes follow a prefix that announces their number. -/
  | sized {mark b : Bytes} (announced : Announces mark b.length) : Spells (mark ++ b) (atom b)
  /-- The byte `ff` stands in front of the two halves. -/
  | pair {s t : Bytes} {p q : Program} (left : Spells s p) (right : Spells t q) :
    Spells (0xFF :: (s ++ t)) (pair p q)

/-- Behind the mark of a pair its two halves are parsed, one after the other. -/
theorem parseWith_pair (fuel : Nat) (rest : Bytes) :
    parseWith (fuel + 1) (0xFF :: rest) = (do
      let (left, rest) ← parseWith fuel rest
      let (right, rest) ← parseWith fuel rest
      return (pair left right, rest)) := by
  rw [parseWith, if_pos rfl]

theorem parseWith_byte {x : UInt8} (hx : x.toNat < 0x80) (fuel : Nat) (rest : Bytes) :
    parseWith (fuel + 1) (x :: rest) = .ok (atom [x], rest) := by
  have hpair : x ≠ 0xFF := by
    rintro rfl
    exact absurd hx (by decide)
  rw [parseWith, if_neg hpair, if_pos hx]

theorem parseWith_sized {x : UInt8} (hx : 0x80 ≤ x.toNat) (hpair : x ≠ 0xFF) (fuel : Nat)
    (rest : Bytes) :
    parseWith (fuel + 1) (x :: rest) = (do
      let (b, rest) ← parseSized x rest
      return (atom b, rest)) := by
  rw [parseWith, if_neg hpair, if_neg (Nat.not_lt.2 hx)]

/-- The three kinds of first byte. -/
theorem first_byte_cases (x : UInt8) :
    x = 0xFF ∨ x.toNat < 0x80 ∨ (0x80 ≤ x.toNat ∧ x ≠ 0xFF) := by
  by_cases hpair : x = 0xFF
  · exact .inl hpair
  · rcases Nat.lt_or_ge x.toNat 0x80 with hx | hx
    · exact .inr (.inl hx)
    · exact .inr (.inr ⟨hx, hpair⟩)

/-- **What the reader takes is a spelling**, and the rest is left as it was. -/
theorem exists_spells_of_parseWith : ∀ {fuel : Nat} {b rest : Bytes} {p : Program},
    parseWith fuel b = .ok (p, rest) → ∃ s, Spells s p ∧ b = s ++ rest := by
  intro fuel
  induction fuel with
  | zero => exact fun h => absurd h Outcome.error_ne_ok
  | succ fuel ih =>
    intro b rest p h
    obtain _ | ⟨x, b⟩ := b
    · exact absurd h Outcome.error_ne_ok
    rcases first_byte_cases x with rfl | hx | ⟨hx, hpair⟩
    · rw [parseWith_pair] at h
      obtain ⟨⟨left, b'⟩, hleft, h⟩ := Outcome.bind_eq_ok_iff.1 h
      obtain ⟨⟨right, b''⟩, hright, h⟩ := Outcome.bind_eq_ok_iff.1 h
      obtain ⟨rfl, rfl⟩ := Prod.mk.inj (Outcome.pure_eq_ok_iff.1 h)
      obtain ⟨s, hs, rfl⟩ := ih hleft
      obtain ⟨t, ht, rfl⟩ := ih hright
      refine ⟨0xFF :: (s ++ t), hs.pair ht, ?_⟩
      rw [List.cons_append, List.append_assoc]
    · rw [parseWith_byte hx] at h
      obtain ⟨rfl, rfl⟩ := Prod.mk.inj (Except.ok.inj h)
      exact ⟨[x], .byte hx, rfl⟩
    · rw [parseWith_sized hx hpair] at h
      obtain ⟨⟨a, b'⟩, hsized, h⟩ := Outcome.bind_eq_ok_iff.1 h
      obtain ⟨rfl, rfl⟩ := Prod.mk.inj (Outcome.pure_eq_ok_iff.1 h)
      obtain ⟨more, hmark, rfl⟩ := (parseSized_eq_ok_iff hx hpair).1 hsized
      refine ⟨x :: more ++ a, .sized hmark, ?_⟩
      rw [List.cons_append, List.cons_append, List.append_assoc]

/-- **A spelling is read as its program, whatever follows it.**  The fuel has to cover its bytes. -/
theorem Spells.parseWith_append {s : Bytes} {p : Program} (h : Spells s p) :
    ∀ {fuel : Nat} (rest : Bytes), s.length ≤ fuel →
      parseWith fuel (s ++ rest) = .ok (p, rest) := by
  induction h with
  | byte small =>
    intro fuel rest hfuel
    obtain ⟨fuel, rfl⟩ := Nat.exists_eq_add_of_le' hfuel
    exact parseWith_byte small fuel rest
  | @sized mark b announced =>
    intro fuel rest hfuel
    obtain ⟨x, more, rfl, hx, hpair⟩ := announced.exists_cons
    rw [List.length_append, List.length_cons] at hfuel
    obtain ⟨fuel, rfl⟩ : ∃ k, fuel = k + 1 := ⟨fuel - 1, by omega⟩
    rw [List.cons_append, List.cons_append, List.append_assoc, parseWith_sized hx hpair]
    refine Outcome.bind_eq_ok_iff.2 ⟨(b, rest), ?_, rfl⟩
    exact (parseSized_eq_ok_iff hx hpair).2 ⟨more, announced, rfl⟩
  | @pair s t p q _ _ ihs iht =>
    intro fuel rest hfuel
    rw [List.length_cons, List.length_append] at hfuel
    obtain ⟨fuel, rfl⟩ : ∃ k, fuel = k + 1 := ⟨fuel - 1, by omega⟩
    rw [List.cons_append, List.append_assoc, parseWith_pair]
    refine Outcome.bind_eq_ok_iff.2 ⟨(p, t ++ rest), ihs (t ++ rest) (by omega), ?_⟩
    exact Outcome.bind_eq_ok_iff.2 ⟨(q, rest), iht rest (by omega), rfl⟩

/-- **What is parsed is spelled, and what is spelled is parsed**, whatever follows it. -/
theorem parse_eq_ok_iff {b rest : Bytes} {p : Program} :
    parse b = .ok (p, rest) ↔ ∃ s, Spells s p ∧ b = s ++ rest := by
  refine ⟨exists_spells_of_parseWith, ?_⟩
  rintro ⟨s, hs, rfl⟩
  exact hs.parseWith_append rest (by simp)

/-- **The reader accepts exactly the spellings of a program.** -/
theorem ofBytes_eq_ok_iff {b : Bytes} {p : Program} : ofBytes b = .ok p ↔ Spells b p := by
  have hparse : ofBytes b = .ok p ↔ parse b = .ok (p, []) := by
    rw [ofBytes]
    split <;> simp_all
  rw [hparse, parse_eq_ok_iff]
  simp

/-- A size is refused as an encoding, or because there are not as many bytes. -/
theorem error_of_parseSized {x : UInt8} {rest : Bytes} {e : ProgramError}
    (h : parseSized x rest = .error e) : e = .badEncoding ∨ e = .blobTooLarge := by
  simp only [parseSized] at h
  split at h
  · exact .inl (Except.error.inj h).symm
  · split at h
    · exact .inr (Except.error.inj h).symm
    · split at h
      · exact .inl (Except.error.inj h).symm
      · exact absurd h Outcome.ok_ne_error

/-- **Parsing fails in two ways only**, by induction on the fuel, of which there is always enough:
each step takes a byte. -/
theorem error_of_parseWith : ∀ {fuel : Nat} {b : Bytes} {e : ProgramError},
    parseWith fuel b = .error e → e = .badEncoding ∨ e = .blobTooLarge := by
  intro fuel
  induction fuel with
  | zero => exact fun h => .inl (Except.error.inj h).symm
  | succ fuel ih =>
    intro b e h
    obtain _ | ⟨x, b⟩ := b
    · exact .inl (Except.error.inj h).symm
    rcases first_byte_cases x with rfl | hx | ⟨hx, hpair⟩
    · rw [parseWith_pair] at h
      rcases Outcome.bind_eq_error_iff.1 h with h | ⟨⟨left, b'⟩, -, h⟩
      · exact ih h
      · rcases Outcome.bind_eq_error_iff.1 h with h | ⟨⟨right, b''⟩, -, h⟩
        · exact ih h
        · exact absurd h Outcome.ok_ne_error
    · rw [parseWith_byte hx] at h
      exact absurd h Outcome.ok_ne_error
    · rw [parseWith_sized hx hpair] at h
      rcases Outcome.bind_eq_error_iff.1 h with h | ⟨⟨a, b'⟩, -, h⟩
      · exact error_of_parseSized h
      · exact absurd h Outcome.ok_ne_error

/-- The three refusals of a byte string. -/
theorem error_of_ofBytes {b : Bytes} {e : ProgramError} (h : ofBytes b = .error e) :
    e ∈ [ProgramError.badEncoding, .blobTooLarge, .trailingBytes] := by
  rw [ofBytes] at h
  split at h
  · exact absurd h Outcome.ok_ne_error
  · rw [← Except.error.inj h]
    decide
  · next hparse =>
    obtain rfl := Except.error.inj h
    rcases error_of_parseWith hparse with rfl | rfl <;> decide

/-- **No spelling goes on in another.**  Two spellings in front of one byte string are the same
bytes, and of the same program. -/
theorem Spells.append_inj {s t u v : Bytes} {p q : Program} (hs : Spells s p) (ht : Spells t q)
    (h : s ++ u = t ++ v) : s = t ∧ p = q ∧ u = v := by
  have hp : parse (s ++ u) = .ok (p, u) := parse_eq_ok_iff.2 ⟨s, hs, rfl⟩
  have hq : parse (s ++ u) = .ok (q, v) := parse_eq_ok_iff.2 ⟨t, ht, h⟩
  obtain ⟨rfl, rfl⟩ := Prod.mk.inj (Except.ok.inj (hp.symm.trans hq))
  exact ⟨List.append_cancel_right h, rfl, rfl⟩

end CoinPuzzles.Program
