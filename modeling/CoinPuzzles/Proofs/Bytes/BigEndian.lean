import CoinPuzzles.Bytes.Basic
import Mathlib.Algebra.Group.Nat.Defs
import Mathlib.Data.List.Induction

/-!
# Proofs/Bytes/BigEndian — the number of a byte string, digit by digit

The first byte counts most (`toNat_cons`), `n` bytes spell a number below `256 ^ n` (`toNat_lt`),
and a string of a fixed width keeps a number modulo that power (`toNat_fixed`).  A string that does
not start with a zero byte is the one that is written for its number (`ofNat_toNat`).
-/

namespace CoinPuzzles.Bytes

/-- Reading on from a number puts it in front. -/
theorem foldl_eq : ∀ (b : Bytes) (n : Nat),
    b.foldl (fun n x => n * 256 + x.toNat) n = n * 256 ^ b.length + toNat b
  | [], n => by simp [toNat]
  | x :: b, n => by
    rw [toNat, List.foldl_cons, List.foldl_cons, foldl_eq b, foldl_eq b (0 * 256 + x.toNat),
      List.length_cons, Nat.pow_succ', Nat.add_mul, Nat.mul_assoc, Nat.zero_mul, Nat.zero_add,
      Nat.add_assoc]

theorem toNat_cons (x : UInt8) (b : Bytes) :
    toNat (x :: b) = x.toNat * 256 ^ b.length + toNat b := by
  rw [toNat, List.foldl_cons, foldl_eq, Nat.zero_mul, Nat.zero_add]

theorem toNat_lt : ∀ b : Bytes, toNat b < 256 ^ b.length
  | [] => by simp
  | x :: b => by
    have hx : x.toNat + 1 ≤ 256 := x.toNat_lt
    have ih := toNat_lt b
    have hmul := Nat.mul_le_mul_right (256 ^ b.length) hx
    rw [Nat.succ_mul] at hmul
    rw [toNat_cons, List.length_cons, Nat.pow_succ']
    omega

/-- A string of a given width keeps the number modulo what the width can hold. -/
theorem toNat_fixed (width n : Nat) : toNat (fixed width n) = n % 256 ^ width := by
  induction width generalizing n with
  | zero => simp [fixed, Nat.mod_one]
  | succ width ih =>
    have hpow : 256 ^ (width + 1) = 256 * 256 ^ width := Nat.pow_succ'
    rw [fixed, toNat_append_singleton, ih, UInt8.toNat_ofNat', hpow, Nat.mod_mul]
    omega

/-! ## Zeros in front -/

theorem toNat_zero_cons (b : Bytes) : toNat (0 :: b) = toNat b := by
  rw [toNat_cons]
  simp

theorem ofNat_toNat_concat {b : Bytes} {x : UInt8} (h : toNat (b ++ [x]) ≠ 0) :
    ofNat (toNat (b ++ [x])) = ofNat (toNat b) ++ [x] := by
  have hx := x.toNat_lt
  have hdiv : (toNat b * 256 + x.toNat) / 256 = toNat b := by omega
  have hmod : (toNat b * 256 + x.toNat) % 256 = x.toNat := by omega
  rw [ofNat, if_neg h, toNat_append_singleton, hdiv, hmod, UInt8.ofNat_toNat]

/-- **A string without a zero byte in front is the shortest of its number.** -/
theorem ofNat_toNat {x : UInt8} (hx : x ≠ 0) (b : Bytes) : ofNat (toNat (x :: b)) = x :: b := by
  have hpositive : 0 < x.toNat := Nat.pos_of_ne_zero fun hzero => hx (UInt8.toNat_inj.1 hzero)
  have hne : ∀ c : Bytes, toNat (x :: c) ≠ 0 := fun c => by
    have hpow := Nat.mul_pos hpositive (Nat.pow_pos (n := c.length) (show 0 < 256 by decide))
    rw [toNat_cons]
    omega
  -- the writer puts the last byte down last, so the induction takes bytes off the end
  induction b using List.reverseRecOn with
  | nil => rw [← List.nil_append [x], ofNat_toNat_concat (hne []), toNat_nil, ofNat_zero]
  | append_singleton b y ih => rw [← List.cons_append, ofNat_toNat_concat (hne _), ih]

end CoinPuzzles.Bytes
