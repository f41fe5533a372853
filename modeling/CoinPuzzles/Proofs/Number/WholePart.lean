import CoinPuzzles.Number.Binary64
import Mathlib.Data.Rat.Floor

/-!
# Proofs/Number/WholePart — what is left of a number without its fraction

A finite floating-point number is a rational number (`Binary64.toRat?`), and cutting it off towards
zero leaves the whole part of that (`Binary64.truncate?_eq`).  The whole part is a natural number
for everything above −1, not for what is not negative only (`wholePart_eq_natCast_iff`).
-/

namespace CoinPuzzles

/-! ## Rational numbers -/

/-- A number without its fraction: the integer between zero and it that is nearest to it. -/
def wholePart (r : ℚ) : ℤ := if 0 ≤ r then ⌊r⌋ else ⌈r⌉

theorem wholePart_of_nonneg {r : ℚ} (h : 0 ≤ r) : wholePart r = ⌊r⌋ := if_pos h

@[simp] theorem wholePart_intCast (n : ℤ) : wholePart n = n := by
  rw [wholePart, Int.floor_intCast, Int.ceil_intCast, ite_self]

theorem wholePart_neg (r : ℚ) : wholePart (-r) = -wholePart r := by
  rcases lt_trichotomy r 0 with h | rfl | h
  · rw [wholePart_of_nonneg (neg_nonneg.2 h.le), wholePart, if_neg h.not_ge, Int.floor_neg]
  · rw [neg_zero, ← Int.cast_zero, wholePart_intCast, neg_zero]
  · rw [wholePart, if_neg (neg_neg_of_pos h).not_ge, wholePart_of_nonneg h.le, Int.ceil_neg]

theorem wholePart_natCast_div (m d : ℕ) : wholePart (m / d) = (m / d : ℕ) := by
  rw [wholePart_of_nonneg (by positivity), Rat.floor_natCast_div_natCast, Int.natCast_div]

/-- **The whole part is a natural number for everything above −1**: what lies between −1 and zero
becomes zero. -/
theorem wholePart_eq_natCast_iff {r : ℚ} {k : ℕ} : wholePart r = k ↔ -1 < r ∧ k = ⌊r⌋₊ := by
  rcases le_or_gt 0 r with h | h
  · rw [wholePart_of_nonneg h, ← Int.natCast_floor_eq_floor h, Nat.cast_inj, eq_comm]
    exact ⟨fun hk => ⟨by linarith, hk⟩, And.right⟩
  · have hceil : ⌈r⌉ ≤ 0 := Int.ceil_le.2 (by exact_mod_cast h.le)
    rw [wholePart, if_neg h.not_ge, Nat.floor_of_nonpos h.le]
    constructor
    · intro hk
      have hzero : ⌈r⌉ = 0 := by omega
      exact ⟨by exact_mod_cast (Int.ceil_eq_iff.1 hzero).1, by omega⟩
    · rintro ⟨hr, rfl⟩
      exact Int.ceil_eq_iff.2 ⟨by simpa using hr, by simpa using h.le⟩

/-! ## Floating-point numbers -/

namespace Binary64

/-- The rational number that a finite floating-point number is. -/
def toRat? : Binary64 → Option ℚ
  | finite negative m e => some (if negative then -(m * 2 ^ e) else m * 2 ^ e)
  | _ => none

theorem wholePart_scaled (m : ℕ) (e : ℤ) : wholePart (m * 2 ^ e) =
    ((if 0 ≤ e then m * Nat.pow 2 e.toNat else m / Nat.pow 2 (-e).toNat : ℕ) : ℤ) := by
  split
  · next he =>
    obtain ⟨k, rfl⟩ := Int.eq_ofNat_of_zero_le he
    rw [zpow_natCast, Int.toNat_natCast]
    exact_mod_cast wholePart_intCast (m * 2 ^ k : ℕ)
  · next he =>
    obtain ⟨k, hk⟩ := Int.eq_ofNat_of_zero_le (show 0 ≤ -e by omega)
    obtain rfl : e = -k := by omega
    rw [zpow_neg, zpow_natCast, ← div_eq_mul_inv, neg_neg, Int.toNat_natCast]
    exact_mod_cast wholePart_natCast_div m (2 ^ k)

/-- **Cutting off a floating-point number leaves the whole part of the number that it is.** -/
theorem truncate?_eq (x : Binary64) : x.truncate? = x.toRat?.map wholePart := by
  cases x with
  | finite negative m e =>
    rw [truncate?, toRat?, Option.map_some]
    cases negative with
    | false => rw [if_neg Bool.false_ne_true, if_neg Bool.false_ne_true, wholePart_scaled]
    | true => rw [if_pos rfl, if_pos rfl, wholePart_neg, wholePart_scaled]
  | infinite negative => rfl
  | nan => rfl

end Binary64

end CoinPuzzles
