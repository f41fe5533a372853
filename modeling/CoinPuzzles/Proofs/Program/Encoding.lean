import CoinPuzzles.Proofs.Program.Parts
import CoinPuzzles.Proofs.Program.Spelling

/-!
# Proofs/Program/Encoding — the writer's spelling is the shortest one

The writer takes the narrowest prefix that holds a size (`prefixWidth`), so `encode` is a spelling
(`spells_encode`) and none is shorter (`Spells.length_encode_le`).  The main statement puts reader
and writer together: `codec_unique_decoding`.
-/

namespace CoinPuzzles.Program

/-! ## The narrowest prefix -/

/-- The width of the narrowest prefix of a size. -/
def prefixWidth (n : Nat) : Nat :=
  if n < 0x40 then 1
  else if n < 0x2000 then 2
  else if n < 0x100000 then 3
  else if n < 0x8000000 then 4
  else 5

theorem prefixWidth_bounds (n : Nat) : 1 ≤ prefixWidth n ∧ prefixWidth n ≤ 5 := by
  rw [prefixWidth]
  split_ifs <;> omega

/-- **A prefix holds a size exactly if it is no narrower than the narrowest.** -/
theorem lt_two_pow_iff {n width : Nat} (hn : n < sizeLimit) (hpos : 1 ≤ width) (hle : width ≤ 7) :
    n < 2 ^ (7 * width - 1) ↔ prefixWidth n ≤ width := by
  rw [sizeLimit] at hn
  rw [prefixWidth]
  interval_cases width <;> simp only [Nat.reduceSub, Nat.reducePow, Nat.reduceMul] <;>
    split_ifs <;> omega

/-- **The writer's prefix is the size in the narrowest width**, with the mark of that width added to
it. -/
theorem sizePrefix_eq (n : Nat) :
    sizePrefix n = Bytes.fixed (prefixWidth n) (sizeMark (prefixWidth n) + n) := by
  rw [sizePrefix, prefixWidth]
  split_ifs with h
  · have hmark : sizeMark 1 = 0x80 := rfl
    rw [hmark, Bytes.fixed, Bytes.fixed, List.nil_append, Nat.mod_eq_of_lt (by omega)]
  all_goals rfl

theorem length_sizePrefix (n : Nat) : (sizePrefix n).length = prefixWidth n := by
  rw [sizePrefix_eq, Bytes.length_fixed]

/-- A size leaves the bits of its mark free, so both together fit into the width. -/
theorem sizeMark_add_lt {n width : Nat} (hpos : 1 ≤ width) (hle : width ≤ 7)
    (hn : n < 2 ^ (7 * width - 1)) : sizeMark width + n < 256 ^ width := by
  rw [sizeMark]
  interval_cases width <;> simp only [Nat.reduceSub, Nat.reducePow, Nat.reduceMul] at hn ⊢ <;>
    omega

/-- **The reader takes the writer's prefix for the size it was written for.** -/
theorem announces_sizePrefix {n : Nat} (hn : n < sizeLimit) : Announces (sizePrefix n) n := by
  obtain ⟨hpos, hle⟩ := prefixWidth_bounds n
  have hfits : n < 2 ^ (7 * prefixWidth n - 1) :=
    (lt_two_pow_iff hn hpos (by omega)).2 (le_refl _)
  refine ⟨?_, ?_, ?_, ?_, hn⟩
  · rwa [length_sizePrefix]
  · rw [length_sizePrefix]
    omega
  · rw [length_sizePrefix, sizePrefix_eq, Bytes.toNat_fixed]
    exact Nat.mod_eq_of_lt (sizeMark_add_lt hpos (by omega) hfits)
  · rwa [length_sizePrefix]

/-- No prefix of a size is narrower than the writer's. -/
theorem Announces.length_sizePrefix_le {mark : Bytes} {n : Nat} (h : Announces mark n) :
    (sizePrefix n).length ≤ mark.length := by
  rw [length_sizePrefix]
  exact (lt_two_pow_iff h.size_lt h.width_pos h.width_le).1 h.size_fits

/-! ## Atoms -/

theorem encodeAtom_byte {x : UInt8} (hx : x.toNat < 0x80) : encodeAtom [x] = [x] := by
  rw [encodeAtom, if_pos hx]

/-- An atom is written as itself or after its prefix. -/
theorem encodeAtom_cases (b : Bytes) :
    (∃ x : UInt8, b = [x] ∧ x.toNat < 0x80 ∧ encodeAtom b = [x]) ∨
      encodeAtom b = sizePrefix b.length ++ b := by
  by_cases h : ∃ x : UInt8, b = [x] ∧ x.toNat < 0x80
  · obtain ⟨x, rfl, hx⟩ := h
    exact .inl ⟨x, rfl, hx, encodeAtom_byte hx⟩
  · refine .inr ?_
    rw [encodeAtom.eq_def]
    split
    · next x =>
      rw [if_neg fun hx => h ⟨x, rfl, hx⟩, List.length_singleton]
    · rfl

/-- What is written of an atom spells it, for all sizes below the limit. -/
theorem spells_encodeAtom {b : Bytes} (hb : b.length < sizeLimit) :
    Spells (encodeAtom b) (atom b) := by
  rcases encodeAtom_cases b with ⟨x, rfl, hx, hwritten⟩ | hwritten
  · rw [hwritten]
    exact .byte hx
  · rw [hwritten]
    exact .sized (announces_sizePrefix hb)

/-- An atom takes no more than its prefix and itself, and less only as a single byte. -/
theorem length_encodeAtom_le (b : Bytes) :
    (encodeAtom b).length ≤ (sizePrefix b.length).length + b.length := by
  rcases encodeAtom_cases b with ⟨x, rfl, -, hwritten⟩ | hwritten
  · rw [hwritten]
    exact Nat.le_add_left _ _
  · rw [hwritten, List.length_append]

/-! ## Programs that can be written -/

@[simp] theorem fits_atom {b : Bytes} : (atom b).fits = true ↔ b.length < sizeLimit := by
  rw [fits, decide_eq_true_eq]

@[simp] theorem fits_pair {p q : Program} :
    (pair p q).fits = true ↔ p.fits = true ∧ q.fits = true := by
  rw [fits, Bool.and_eq_true]

@[simp] theorem fits_nil : nil.fits = true := by decide

@[simp] theorem fits_ofList : ∀ {ps : List Program},
    (ofList ps).fits = true ↔ ∀ p ∈ ps, p.fits = true
  | [] => by decide
  | p :: ps => by
    rw [List.forall_mem_cons, ← fits_ofList]
    exact fits_pair

@[simp] theorem fits_quote {p : Program} : (quote p).fits = true ↔ p.fits = true := by
  have hop : quoteOp.fits = true := by decide
  rw [quote, fits_pair, and_iff_right hop]

theorem fits_environment : ∀ {args : List Program},
    (environment args).fits = true ↔ ∀ p ∈ args, p.fits = true
  | [] => by decide
  | p :: ps => by
    have hop : consOp.fits = true := by decide
    rw [List.forall_mem_cons, ← fits_environment, environment]
    simp [hop]

@[simp] theorem fits_curry {module : Program} {args : List Program} :
    (curry module args).fits = true ↔ module.fits = true ∧ ∀ p ∈ args, p.fits = true := by
  have hop : applyOp.fits = true := by decide
  rw [← fits_environment, curry]
  simp [hop]

/-- **A program can be written exactly if all of its atoms are below the limit.** -/
theorem fits_iff : ∀ {p : Program}, p.fits = true ↔ ∀ b ∈ p.atoms, b.length < sizeLimit
  | atom b => by rw [fits_atom, atoms, List.forall_mem_singleton]
  | pair p q => by rw [fits_pair, fits_iff, fits_iff, atoms, List.forall_mem_append]

/-! ## Programs -/

/-- **The writer spells the program**, as long as its atoms have a prefix. -/
theorem spells_encode : ∀ {p : Program}, (∀ b ∈ p.atoms, b.length < sizeLimit) →
    Spells p.encode p
  | atom b, h => spells_encodeAtom (h b (List.mem_singleton.2 rfl))
  | pair _ _, h =>
    .pair (spells_encode fun b hb => h b (List.mem_append_left _ hb))
      (spells_encode fun b hb => h b (List.mem_append_right _ hb))

/-- The atoms of a program that has a spelling have a prefix. -/
theorem Spells.length_lt {s : Bytes} {p : Program} (h : Spells s p) :
    ∀ b ∈ p.atoms, b.length < sizeLimit := by
  induction h with
  | byte small =>
    intro b hb
    rw [List.mem_singleton.1 hb, List.length_singleton]
    decide
  | sized announced =>
    intro b hb
    rw [List.mem_singleton.1 hb]
    exact announced.size_lt
  | pair _ _ ihs iht =>
    intro b hb
    rcases List.mem_append.1 hb with hb | hb
    · exact ihs b hb
    · exact iht b hb

/-- **No spelling is shorter than the writer's.** -/
theorem Spells.length_encode_le {s : Bytes} {p : Program} (h : Spells s p) :
    p.encode.length ≤ s.length := by
  induction h with
  | byte small => rw [encode, encodeAtom_byte small]
  | @sized mark b announced =>
    have hatom := length_encodeAtom_le b
    have hmark := announced.length_sizePrefix_le
    rw [encode, List.length_append]
    omega
  | pair _ _ ihs iht =>
    rw [encode, List.length_cons, List.length_cons, List.length_append, List.length_append]
    omega

/-- **Reading what was written gives the program back.** -/
theorem ofBytes_encode {p : Program} (h : ∀ b ∈ p.atoms, b.length < sizeLimit) :
    ofBytes p.encode = .ok p :=
  ofBytes_eq_ok_iff.2 (spells_encode h)

/-- **A program is read back from its hexadecimal text.** -/
theorem ofHex_toHex {p : Program} (h : ∀ b ∈ p.atoms, b.length < sizeLimit) :
    ofHex p.toHex = .ok p := by
  rw [ofHex, toHex, Bytes.ofHex_toMarkedHex]
  exact ofBytes_encode h

theorem fits_of_ofHex {text : String} {p : Program} (h : ofHex text = .ok p) : p.fits = true := by
  rw [ofHex] at h
  split at h
  · exact fits_iff.2 (ofBytes_eq_ok_iff.1 h).length_lt
  · cases h

/-! ## Unique decoding -/

/-- **Reader and writer agree, and no spelling is ambiguous.**  What is written is read back; what
is accepted is one whole spelling of the program, no shorter than the one that is written; and no
byte string in front of an accepted one, or going on from it, is accepted too. -/
theorem codec_unique_decoding :
    (∀ p : Program, (∀ b ∈ p.atoms, b.length < sizeLimit) → ofHex p.toHex = .ok p) ∧
    (∀ b : Bytes,
      (∃ e ∈ [ProgramError.badEncoding, .blobTooLarge, .trailingBytes],
        ofBytes b = .error e ∧ ∀ p, ¬ Spells b p) ∨
      ∃ p, ofBytes b = .ok p ∧ Spells b p ∧ (∀ q, Spells b q → q = p) ∧
        p.encode.length ≤ b.length ∧ ofBytes p.encode = .ok p) ∧
    (∀ (b c : Bytes) (p : Program), ofBytes b = .ok p → c ≠ b → c <+: b ∨ b <+: c →
      ∃ e, ofBytes c = .error e) := by
  refine ⟨fun p hp => ofHex_toHex hp, fun b => ?_, fun b c p hb hne hc => ?_⟩
  · cases hb : ofBytes b with
    | error e =>
      refine .inl ⟨e, error_of_ofBytes hb, rfl, fun p hp => ?_⟩
      exact absurd ((ofBytes_eq_ok_iff.2 hp).symm.trans hb) (by simp)
    | ok p =>
      have hs : Spells b p := ofBytes_eq_ok_iff.1 hb
      refine .inr ⟨p, rfl, hs, fun q hq => ?_, hs.length_encode_le, ofBytes_encode hs.length_lt⟩
      exact (hq.append_inj hs (u := []) (v := []) rfl).2.1
  · cases hread : ofBytes c with
    | error e => exact ⟨e, rfl⟩
    | ok q =>
      have hs : Spells b p := ofBytes_eq_ok_iff.1 hb
      have ht : Spells c q := ofBytes_eq_ok_iff.1 hread
      rcases hc with ⟨u, hu⟩ | ⟨u, hu⟩
      · exact absurd (ht.append_inj hs (hu.trans (List.append_nil b).symm)).1 hne
      · exact absurd (hs.append_inj ht (hu.trans (List.append_nil c).symm)).1.symm hne

/-- A pair whose first half has a prefix wider than it needs, and the same bytes cut short. -/
theorem codec_unique_decoding_wide_prefix :
    ((∀ b ∈ (pair (atom [0x80]) nil).atoms, b.length < sizeLimit) ∧
      ofHex (pair (atom [0x80]) nil).toHex = .ok (pair (atom [0x80]) nil)) ∧
    ofBytes [0xFF, 0xC0, 0x01, 0x05, 0x80] = .ok (pair (atom [5]) nil) ∧
    ∃ e, ofBytes [0xFF, 0xC0, 0x01, 0x05] = .error e := by
  have hatoms : ∀ b ∈ (pair (atom [0x80]) nil).atoms, b.length < sizeLimit := by decide
  have hread : ofBytes [0xFF, 0xC0, 0x01, 0x05, 0x80] = .ok (pair (atom [5]) nil) := by rfl
  refine ⟨⟨hatoms, codec_unique_decoding.1 _ hatoms⟩, hread, ?_⟩
  exact codec_unique_decoding.2.2 _ _ _ hread (by decide) (.inl ⟨[0x80], rfl⟩)

end CoinPuzzles.Program
