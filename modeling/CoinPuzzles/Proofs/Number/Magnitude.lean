import CoinPuzzles.Number.Numeral
import CoinPuzzles.Proofs.Number.WholePart

/-!
# Proofs/Number/Magnitude — how large a floating-point number can be

A quotient is rounded up by one unit in the last place at most (`Binary64.ofQuotient_le`).  So a
decimal number that is rounded to a finite one is limited (`Binary64.abs_ofDecimal_lt`), and its
whole part has fewer digits than a numeral may have (`Binary64.wholePart_ofDecimal_lt`).
-/

namespace CoinPuzzles.Binary64

theorem divideToEven_mul_le (num : Nat) {den : Nat} (h : 0 < den) :
    (divideToEven num den : ℚ) * den ≤ num + den := by
  have hnear : _ ∧ 2 * (divideToEven num den * den) ≤ 2 * num + den := divideToEven_near h
  have hle : divideToEven num den * den ≤ num + den := by omega
  exact_mod_cast hle

/-- **A quotient is rounded up by one unit at most.** -/
theorem divideScaled_le (num : Nat) {den : Nat} (h : 0 < den) (e : Int) :
    (divideScaled num den e : ℚ) * 2 ^ e ≤ num / den + 2 ^ e := by
  have hden : (0 : ℚ) < den := by exact_mod_cast h
  rw [divideScaled, div_add' _ _ _ hden.ne', le_div_iff₀ hden]
  split
  · next he =>
    obtain ⟨k, rfl⟩ := Int.eq_ofNat_of_zero_le he
    have hle := divideToEven_mul_le num (Nat.mul_pos h (Nat.two_pow_pos k))
    push_cast at hle
    rw [Int.toNat_natCast, zpow_natCast, mul_assoc, mul_comm ((2 : ℚ) ^ k)]
    exact hle
  · next he =>
    obtain ⟨k, hk⟩ := Int.eq_ofNat_of_zero_le (show 0 ≤ -e by omega)
    obtain rfl : e = -k := by omega
    have hle := divideToEven_mul_le (num * 2 ^ k) h
    have hpow : (0 : ℚ) < 2 ^ k := by positivity
    push_cast at hle
    rw [neg_neg, Int.toNat_natCast, zpow_neg, zpow_natCast]
    calc (divideToEven (num * 2 ^ k) den : ℚ) * (2 ^ k)⁻¹ * den
        = divideToEven (num * 2 ^ k) den * den * (2 ^ k)⁻¹ := mul_right_comm _ _ _
      _ ≤ (num * 2 ^ k + den) * (2 ^ k)⁻¹ := by gcongr
      _ = num + (2 ^ k)⁻¹ * den := by field_simp

/-- **What a quotient is rounded to is not much larger**: the greatest unit is that of the greatest
exponent. -/
theorem ofQuotient_le {negative negative' : Bool} {num den m k : Nat} {e : Int} (hden : 0 < den)
    (hk : 971 ≤ k) (h : ofQuotient negative num den = finite negative' m e) :
    (m : ℚ) * 2 ^ e ≤ num / den + 2 ^ k := by
  by_cases hzero : num = 0
  · rw [ofQuotient, if_pos hzero] at h
    obtain ⟨-, rfl, -⟩ := finite.inj h
    rw [Nat.cast_zero, zero_mul]
    positivity
  · rw [ofQuotient, if_neg hzero] at h
    dsimp only at h
    generalize max ((if reaches num den (num.log2 - den.log2) then
      (num.log2 : Int) - den.log2 else num.log2 - den.log2 - 1) - 52) (-1074) = unit at h
    have hscaled (hle : unit ≤ 971) :
        (divideScaled num den unit : ℚ) * 2 ^ unit ≤ num / den + 2 ^ k := by
      refine (divideScaled_le num hden unit).trans (add_le_add_right ?_ _)
      rw [← zpow_natCast]
      exact zpow_le_zpow_right₀ one_le_two (by omega)
    by_cases hcarry : divideScaled num den unit = Nat.pow 2 53
    · rw [if_pos hcarry] at h
      dsimp only at h
      split at h
      · cases h
      · next hle =>
        obtain ⟨-, rfl, rfl⟩ := finite.inj h
        have hsame : ((Nat.pow 2 52 : Nat) : ℚ) * 2 ^ (unit + 1) =
            (divideScaled num den unit : ℚ) * 2 ^ unit := by
          rw [hcarry, zpow_add₀ two_ne_zero, zpow_one]
          push_cast
          ring
        rw [hsame]
        exact hscaled (by omega)
    · rw [if_neg hcarry] at h
      dsimp only at h
      split at h
      · cases h
      · next hle =>
        obtain ⟨-, rfl, rfl⟩ := finite.inj h
        exact hscaled (by omega)

theorem abs_of_toRat? {negative : Bool} {m : Nat} {e : Int} {r : ℚ}
    (h : (finite negative m e).toRat? = some r) : |r| = m * 2 ^ e := by
  have hnonneg : (0 : ℚ) ≤ m * 2 ^ e := mul_nonneg m.cast_nonneg (zpow_nonneg zero_le_two _)
  obtain rfl := Option.some.inj h
  cases negative with
  | false => exact abs_of_nonneg hnonneg
  | true => rw [if_pos rfl, abs_neg, abs_of_nonneg hnonneg]

theorem abs_ofQuotient_lt {negative : Bool} {num den limit k : Nat} {r : ℚ} (hden : 0 < den)
    (hk : 971 ≤ k) (hlimit : num < limit * den)
    (h : (ofQuotient negative num den).toRat? = some r) : |r| < limit + 2 ^ k := by
  cases hquotient : ofQuotient negative num den with
  | finite negative' m e =>
    have hden' : (0 : ℚ) < den := by exact_mod_cast hden
    have hnum : (num : ℚ) / den < limit := by
      rw [div_lt_iff₀ hden']
      exact_mod_cast hlimit
    rw [hquotient] at h
    rw [abs_of_toRat? h]
    exact (ofQuotient_le hden hk hquotient).trans_lt (add_lt_add_left hnum _)
  | infinite negative' =>
    rw [hquotient] at h
    cases h
  | nan =>
    rw [hquotient] at h
    cases h

/-- **A decimal number that is rounded to a finite one is limited**, however large its exponent. -/
theorem abs_ofDecimal_lt {negative : Bool} {m k : Nat} {e : Int} {r : ℚ} (hk : 971 ≤ k)
    (h : (ofDecimal negative m e).toRat? = some r) : |r| < (10 ^ k : Nat) + 2 ^ k := by
  have hzero (h : (finite negative 0 (-1074)).toRat? = some r) : |r| < (10 ^ k : Nat) + 2 ^ k := by
    rw [abs_of_toRat? h, Nat.cast_zero, zero_mul]
    positivity
  have hdigits : m < 10 ^ (toString m).length :=
    (Nat.length_repr_le_iff Nat.length_repr_pos).1 le_rfl
  rw [ofDecimal] at h
  split at h
  · exact hzero h
  dsimp only at h
  split at h
  · cases h
  next htop =>
  split at h
  · exact hzero h
  split at h
  · next he =>
    have hnum : m * 10 ^ e.toNat < 10 ^ k * 1 :=
      calc m * 10 ^ e.toNat
          < 10 ^ (toString m).length * 10 ^ e.toNat :=
            Nat.mul_lt_mul_of_pos_right hdigits (Nat.pow_pos (by decide))
        _ = 10 ^ ((toString m).length + e.toNat) := (Nat.pow_add ..).symm
        _ ≤ 10 ^ k := Nat.pow_le_pow_right (by decide) (by omega)
        _ = 10 ^ k * 1 := (Nat.mul_one _).symm
    exact abs_ofQuotient_lt Nat.one_pos hk hnum h
  · next he =>
    have hnum : m < 10 ^ k * 10 ^ (-e).toNat :=
      calc m < 10 ^ (toString m).length := hdigits
        _ ≤ 10 ^ (k + (-e).toNat) := Nat.pow_le_pow_right (by decide) (by omega)
        _ = 10 ^ k * 10 ^ (-e).toNat := Nat.pow_add ..
    exact abs_ofQuotient_lt (Nat.pow_pos (by decide)) hk hnum h

theorem abs_wholePart_le (r : ℚ) : |(wholePart r : ℚ)| ≤ |r| := by
  rcases le_total 0 r with h | h
  · have hfloor : (0 : ℚ) ≤ ⌊r⌋ := by exact_mod_cast Int.floor_nonneg.2 h
    rw [wholePart_of_nonneg h, abs_of_nonneg h, abs_of_nonneg hfloor]
    exact Int.floor_le r
  · have hneg := neg_nonneg.2 h
    have hfloor : (0 : ℚ) ≤ ⌊-r⌋ := by exact_mod_cast Int.floor_nonneg.2 hneg
    rw [← neg_neg r, wholePart_neg, wholePart_of_nonneg hneg, Int.cast_neg, abs_neg, abs_neg,
      abs_of_nonneg hneg, abs_of_nonneg hfloor]
    exact Int.floor_le (-r)

/-- **The whole part of a decimal number that is rounded to a finite one can be written.** -/
theorem wholePart_ofDecimal_lt {negative : Bool} {m : Nat} {e : Int} {r : ℚ}
    (h : (ofDecimal negative m e).toRat? = some r) :
    (wholePart r).natAbs < 10 ^ Numeral.digitLimit := by
  obtain ⟨k, hk, hlimit⟩ : ∃ k, 971 ≤ k ∧ Numeral.digitLimit = k + 1 := ⟨4299, by decide, rfl⟩
  have hlt := (abs_wholePart_le r).trans_lt (abs_ofDecimal_lt hk h)
  have hnat : (wholePart r).natAbs < 10 ^ k + 2 ^ k := by
    rw [← Int.cast_abs, Int.abs_eq_natAbs, Int.cast_natCast] at hlt
    exact_mod_cast hlt
  rw [hlimit]
  calc (wholePart r).natAbs
      < 10 ^ k + 2 ^ k := hnat
    _ ≤ 10 ^ k + 10 ^ k := Nat.add_le_add_left (Nat.pow_le_pow_left (by decide) _) _
    _ ≤ 10 ^ k * 10 := by omega
    _ = 10 ^ (k + 1) := (Nat.pow_succ ..).symm

end CoinPuzzles.Binary64
