import CoinPuzzles.Proofs.Bytes.BigEndian

/-!
# Proofs/Bytes/TwosComplement — the integer of a byte string

A string and the string of its inverted bits spell, as natural numbers, two numbers that add up to
the greatest one of their length (`toNat_invert`).  So inverting the bits of a string without sign
turns the natural number `n` into the integer `-n - 1`, and reading an integer undoes writing it:
`toInt_ofInt`.

A natural number has one string for each number of zero bytes in front (`toInt_eq_natCast_iff`).
The one that is written has as few of them as there can be, none or one
(`ofUnsigned_eq_zero_cons_iff`), and it is the only one of its length: `isShortest_iff`.
-/

namespace CoinPuzzles.Bytes

@[simp] theorem isNegative_cons (x : UInt8) (b : Bytes) :
    isNegative (x :: b) = decide (128 ≤ x.toNat) := rfl

theorem toInt_of_not_isNegative {b : Bytes} (h : b.isNegative = false) : b.toInt = b.toNat := by
  rw [toInt, h, if_neg Bool.false_ne_true]

/-- **With a sign the integer is the natural number less the next power of 256.** -/
theorem toInt_of_isNegative {b : Bytes} (h : b.isNegative = true) :
    b.toInt = (b.toNat : Int) - (256 ^ b.length : Nat) := by
  rw [toInt, h, if_pos rfl]
  rfl

/-! ## Numbers without sign -/

/-- The string of a natural number has no sign: a zero byte in front holds it back. -/
theorem isNegative_ofUnsigned (n : Nat) : (ofUnsigned n).isNegative = false := by
  simp only [ofUnsigned]
  split
  · rfl
  · next h => exact Bool.eq_false_iff.2 h

theorem toNat_ofUnsigned (n : Nat) : (ofUnsigned n).toNat = n := by
  simp only [ofUnsigned]
  split
  · rw [toNat_cons, toNat_ofNat]
    simp
  · exact toNat_ofNat n

/-- **Reading a natural number undoes writing it.** -/
theorem toInt_ofUnsigned (n : Nat) : (ofUnsigned n).toInt = n := by
  rw [toInt_of_not_isNegative (isNegative_ofUnsigned n), toNat_ofUnsigned]

theorem ofUnsigned_inj {m n : Nat} : ofUnsigned m = ofUnsigned n ↔ m = n := by
  constructor
  · intro h
    rw [← toNat_ofUnsigned m, h, toNat_ofUnsigned]
  · rintro rfl
    rfl

/-- The digits of a number take no more bytes than any width that holds it, by induction on both. -/
theorem length_ofNat_le : ∀ {n width : Nat}, n < 256 ^ width → (ofNat n).length ≤ width
  | 0, _, _ => by simp [ofNat_zero]
  | n + 1, 0, h => by simp at h
  | n + 1, width + 1, h => by
    rw [Nat.pow_succ'] at h
    have hrest : (n + 1) / 256 < 256 ^ width := by omega
    have ih := length_ofNat_le hrest
    rw [ofNat, if_neg (Nat.succ_ne_zero n), List.length_append, List.length_singleton]
    omega

/-- **A string has a sign exactly if its integer is negative.** -/
theorem isNegative_eq_false_iff {b : Bytes} : b.isNegative = false ↔ 0 ≤ b.toInt := by
  constructor
  · intro h
    rw [toInt_of_not_isNegative h]
    omega
  · intro h
    refine Bool.eq_false_iff.2 fun hnegative => ?_
    have hlt := toNat_lt b
    rw [toInt_of_isNegative hnegative] at h
    omega

/-! ## The strings of one number -/

section Strings

variable {b : Bytes} {n : Nat}

/-- A string that reads as negative takes a zero byte in front to spell its number. -/
theorem ofUnsigned_toNat_of_isNegative (h : b.isNegative = true) : ofUnsigned b.toNat = 0 :: b := by
  cases b with
  | nil => cases h
  | cons x b =>
    have hx : x ≠ 0 := by
      rintro rfl
      cases h
    simp only [ofUnsigned]
    rw [ofNat_toNat hx, if_pos h]

/-- A string without a zero byte in front and without a sign is the one that is written. -/
theorem ofUnsigned_toNat {x : UInt8} (hx : x ≠ 0) (h : isNegative (x :: b) = false) :
    ofUnsigned (toNat (x :: b)) = x :: b := by
  simp only [ofUnsigned]
  rw [ofNat_toNat hx, h, if_neg Bool.false_ne_true]

/-- A string that does not read as negative is the one that is written, with zeros in front. -/
theorem exists_replicate_append : ∀ {b : Bytes}, isNegative b = false →
    ∃ k, b = List.replicate k 0 ++ ofUnsigned (toNat b)
  | [], _ => ⟨0, by rw [toNat_nil, ofUnsigned, ofNat_zero]; rfl⟩
  | x :: b, h => by
    by_cases hx : x = 0
    · subst hx
      rw [toNat_zero_cons]
      -- a zero byte in front either holds back a sign, and is written, or only pads
      cases hsign : isNegative b with
      | true => exact ⟨0, (ofUnsigned_toNat_of_isNegative hsign).symm⟩
      | false =>
        obtain ⟨k, hk⟩ := exists_replicate_append hsign
        refine ⟨k + 1, ?_⟩
        rw [List.replicate_succ, List.cons_append, ← hk]
    · exact ⟨0, (ofUnsigned_toNat hx h).symm⟩

theorem toInt_zero_cons (h : b.isNegative = false) : toInt (0 :: b) = b.toInt := by
  rw [toInt_of_not_isNegative (isNegative_cons 0 b), toInt_of_not_isNegative h, toNat_zero_cons]

/-- Zeros in front of the string that is written do not change the number. -/
theorem toInt_replicate_append (k n : Nat) : toInt (List.replicate k 0 ++ ofUnsigned n) = n := by
  induction k with
  | zero => exact toInt_ofUnsigned n
  | succ k ih =>
    have hpositive : isNegative (List.replicate k 0 ++ ofUnsigned n) = false :=
      isNegative_eq_false_iff.2 (by omega)
    rw [List.replicate_succ, List.cons_append, toInt_zero_cons hpositive, ih]

/-- **The strings of a natural number are the one that is written and its paddings with zeros.** -/
theorem toInt_eq_natCast_iff : b.toInt = n ↔ ∃ k, b = List.replicate k 0 ++ ofUnsigned n := by
  constructor
  · intro h
    have hpositive : b.isNegative = false := isNegative_eq_false_iff.2 (by omega)
    rw [toInt_of_not_isNegative hpositive, Int.ofNat_inj] at h
    exact h ▸ exists_replicate_append hpositive
  · rintro ⟨k, rfl⟩
    exact toInt_replicate_append k n

/-- **No string of a natural number is shorter than the one that is written.** -/
theorem length_ofUnsigned_le (h : b.toInt = n) : (ofUnsigned n).length ≤ b.length := by
  obtain ⟨k, rfl⟩ := toInt_eq_natCast_iff.1 h
  rw [List.length_append]
  exact Nat.le_add_left _ _

theorem ofUnsigned_eq_nil_iff : ofUnsigned n = [] ↔ n = 0 := by
  constructor
  · intro h
    rw [← toNat_ofUnsigned n, h, toNat_nil]
  · rintro rfl
    rw [ofUnsigned, ofNat_zero]
    rfl

/-- **A zero byte stands in front exactly where the byte after it would read as a sign.** -/
theorem ofUnsigned_eq_zero_cons_iff :
    ofUnsigned n = 0 :: b ↔ b.isNegative = true ∧ b.toNat = n := by
  constructor
  · intro h
    have hnat : b.toNat = n := by rw [← toNat_zero_cons, ← h, toNat_ofUnsigned]
    refine ⟨?_, hnat⟩
    -- without the sign the rest would spell the number too, and it is shorter
    by_contra hsign
    have hint : b.toInt = n := by rw [toInt_of_not_isNegative (Bool.eq_false_iff.2 hsign), hnat]
    have hlength := length_ofUnsigned_le hint
    rw [h, List.length_cons] at hlength
    omega
  · rintro ⟨hsign, rfl⟩
    exact ofUnsigned_toNat_of_isNegative hsign

end Strings

/-- The string spells the integer, and none that is shorter does. -/
def IsShortest (b : Bytes) (n : Int) : Prop := b.toInt = n ∧ ∀ c, toInt c = n → b.length ≤ c.length

theorem isShortest_ofUnsigned (n : Nat) : IsShortest (ofUnsigned n) n :=
  ⟨toInt_ofUnsigned n, fun _ => length_ofUnsigned_le⟩

/-- **The shortest string of a natural number is unique**: it is the one that is written. -/
theorem isShortest_iff {b : Bytes} {n : Nat} : IsShortest b n ↔ b = ofUnsigned n := by
  constructor
  · rintro ⟨hb, hshort⟩
    obtain ⟨k, rfl⟩ := toInt_eq_natCast_iff.1 hb
    have hlength := hshort _ (toInt_ofUnsigned n)
    rw [List.length_append, List.length_replicate] at hlength
    obtain rfl : k = 0 := by omega
    rfl
  · rintro rfl
    exact isShortest_ofUnsigned n

/-! ## Inverted bits -/

theorem toNat_sub_255 (x : UInt8) : (255 - x).toNat = 255 - x.toNat := by
  have hx := x.toNat_lt
  rw [UInt8.toNat_sub_of_le]
  · rfl
  · exact UInt8.le_iff_toNat_le.2 (by simpa using Nat.le_of_lt_succ hx)

/-- **A string and its inverse add up to the greatest number of their length.** -/
theorem toNat_invert : ∀ b : Bytes, toNat (b.map (255 - ·)) + toNat b + 1 = 256 ^ b.length
  | [] => rfl
  | x :: b => by
    have hx := x.toNat_lt
    have ih := toNat_invert b
    have hsum : (255 - x.toNat) * 256 ^ b.length + x.toNat * 256 ^ b.length =
        255 * 256 ^ b.length := by
      rw [← Nat.add_mul, Nat.sub_add_cancel (by omega)]
    rw [List.map_cons, toNat_cons, toNat_cons, List.length_map, toNat_sub_255, List.length_cons,
      Nat.pow_succ']
    omega

/-- The inverse of a string without sign reads as the next lower negative number. -/
theorem toInt_complement {b : Bytes} (h : b.isNegative = false) :
    (complement b).toInt = -(b.toNat : Int) - 1 := by
  cases b with
  | nil => rfl
  | cons x b =>
    have hx : ¬ 128 ≤ x.toNat := by simpa using h
    have hinvert := toNat_invert (x :: b)
    have hbits : complement (x :: b) = (x :: b).map (255 - ·) := rfl
    have hnegative : (complement (x :: b)).isNegative = true := by
      rw [hbits, List.map_cons, isNegative_cons, toNat_sub_255, decide_eq_true_eq]
      omega
    rw [toInt_of_isNegative hnegative, hbits, List.length_map, ← hinvert]
    omega

/-! ## Integers -/

/-- **Reading an integer undoes writing it**, whatever its sign. -/
theorem toInt_ofInt : ∀ n : Int, (ofInt n).toInt = n
  | .ofNat n => toInt_ofUnsigned n
  | .negSucc n => by
    rw [ofInt, toInt_complement (isNegative_ofUnsigned n), toNat_ofUnsigned, Int.negSucc_eq]
    omega

/-- **Different integers have different strings**, since each is read back. -/
theorem ofInt_inj {m n : Int} : ofInt m = ofInt n ↔ m = n := by
  constructor
  · intro h
    rw [← toInt_ofInt m, h, toInt_ofInt]
  · rintro rfl
    rfl

end CoinPuzzles.Bytes
