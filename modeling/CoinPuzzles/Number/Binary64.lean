/-!
# Number/Binary64 — binary floating point with 53 bits

A finite number is a sign, a mantissa below 2^53 and an exponent from −1074 to 971; the mantissa
is at least 2^52 unless the exponent is least.  Every conversion rounds the exact quotient of two
natural numbers to the nearest number (`divideToEven_near`), a half to the even mantissa
(`divideToEven_tie`).
-/

namespace CoinPuzzles

/-- A floating-point number. -/
inductive Binary64 where
  /-- The number `± mantissa · 2 ^ exponent`. -/
  | finite (negative : Bool) (mantissa : Nat) (exponent : Int)
  | infinite (negative : Bool)
  | nan
deriving DecidableEq

namespace Binary64

/-- The quotient rounded to the nearest natural number, a half to the even one. -/
def divideToEven (num den : Nat) : Nat :=
  let q := num / den
  let r := num % den
  if 2 * r < den then q
  else if den < 2 * r then q + 1
  else if q % 2 = 0 then q else q + 1

/-- **The rounded quotient is within half a unit of the exact one.** -/
theorem divideToEven_near {num den : Nat} (h : 0 < den) :
    2 * num ≤ 2 * (divideToEven num den * den) + den ∧
      2 * (divideToEven num den * den) ≤ 2 * num + den := by
  have hd := Nat.div_add_mod' num den
  have hm := Nat.mod_lt num h
  simp only [divideToEven]
  split
  · omega
  · split
    · rw [Nat.add_one_mul (num / den)]; omega
    · split
      · omega
      · rw [Nat.add_one_mul (num / den)]; omega

theorem divideToEven_tie {num den : Nat} (h : 2 * (num % den) = den) :
    divideToEven num den % 2 = 0 := by
  simp only [divideToEven, h, Nat.lt_irrefl, if_false]
  split <;> omega

/-- The quotient of `num` by `den · 2 ^ e`, rounded. -/
def divideScaled (num den : Nat) (e : Int) : Nat :=
  if 0 ≤ e then divideToEven num (den * Nat.pow 2 e.toNat)
  else divideToEven (num * Nat.pow 2 (-e).toNat) den

/-- Whether `num / den` is at least `2 ^ e`. -/
def reaches (num den : Nat) (e : Int) : Bool :=
  if 0 ≤ e then decide (den * Nat.pow 2 e.toNat ≤ num)
  else decide (den ≤ num * Nat.pow 2 (-e).toNat)

/-- The floating-point number nearest to `± num / den`. -/
def ofQuotient (negative : Bool) (num den : Nat) : Binary64 :=
  if num = 0 then finite negative 0 (-1074)
  else
    let guess : Int := (num.log2 : Int) - den.log2
    let top : Int := if reaches num den guess then guess else guess - 1
    let e : Int := max (top - 52) (-1074)
    let m := divideScaled num den e
    let (m, e) := if m = Nat.pow 2 53 then (Nat.pow 2 52, e + 1) else (m, e)
    if 971 < e then infinite negative else finite negative m e

/-- The floating-point number nearest to `± m · 10 ^ e`. -/
def ofDecimal (negative : Bool) (m : Nat) (e : Int) : Binary64 :=
  if m = 0 then finite negative 0 (-1074)
  else
    let top : Int := (toString m).length + e
    if 400 < top then infinite negative
    else if top < -400 then finite negative 0 (-1074)
    else if 0 ≤ e then ofQuotient negative (m * Nat.pow 10 e.toNat) 1
    else ofQuotient negative m (Nat.pow 10 (-e).toNat)

/-- The floating-point number nearest to an integer; nothing if it is out of range. -/
def ofInt? (n : Int) : Option Binary64 :=
  match ofQuotient (decide (n < 0)) n.natAbs 1 with
  | infinite _ => none
  | x => some x

example : ofDecimal false 1 (-1) = finite false 7205759403792794 (-56) := by decide +kernel

example : ofDecimal true 1 309 = infinite true := by decide +kernel

/-- Whether the number is a zero. -/
def isZero : Binary64 → Bool
  | finite _ m _ => m == 0
  | _ => false

/-- Whether the number compares as zero or less. -/
def isNonpositive : Binary64 → Bool
  | finite negative m _ => negative || m == 0
  | infinite negative => negative
  | nan => false

/-- The integer between zero and a finite number that is nearest to it. -/
def truncate? : Binary64 → Option Int
  | finite negative m e =>
    let n : Nat := if 0 ≤ e then m * Nat.pow 2 e.toNat else m / Nat.pow 2 (-e).toNat
    some (if negative then -(n : Int) else n)
  | _ => none

/-- The integer that a number is equal to. -/
def toInt? (x : Binary64) : Option Int :=
  match x with
  | finite _ m e =>
    if 0 ≤ e || m % Nat.pow 2 (-e).toNat == 0 then x.truncate? else none
  | _ => none

end Binary64

end CoinPuzzles
