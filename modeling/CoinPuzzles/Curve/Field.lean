/-!
# Curve/Field — the base field of the signature curves and its quadratic extension

`Fp` is the prime field of 381 bits, `Fp2` adjoins a square root of minus one.  Inverses come from
the extended Euclidean algorithm; the inverse of zero is zero.
-/

namespace CoinPuzzles.Curve

/-- The prime of the base field. -/
def modulus : Nat :=
  0x1a0111ea397fe69a4b1ba7b6434bacd764774b84f38512bf6730d2a0f6b0f6241eabfffeb153ffffb9feffffffffaaab

theorem modulus_pos : 0 < modulus := by decide

/-- What a curve needs of the field of its coordinates. -/
class CoordinateField (F : Type) extends Add F, Sub F, Mul F, Neg F where
  zero : F
  ofNat : Nat → F
  inv : F → F

export CoordinateField (inv)

/-- The powers of a field element. -/
def power {F : Type} [CoordinateField F] (x : F) (n : Nat) : F :=
  if n = 0 then CoordinateField.ofNat 1
  else
    let root := power x (n / 2)
    if n % 2 = 0 then root * root else root * root * x
termination_by n
decreasing_by omega

/-! ## The base field -/

/-- An element of the base field. -/
structure Fp where
  val : Nat
  isLt : val < modulus
deriving DecidableEq

namespace Fp

/-- The residue of a natural number. -/
def ofNat (n : Nat) : Fp := ⟨n % modulus, Nat.mod_lt _ modulus_pos⟩

/-- The residue of an integer. -/
def ofInt (n : Int) : Fp := ofNat (n % modulus).toNat

/-- A coefficient `t` with `t · a` congruent to the greatest common divisor, where `r₀`, `r₁` are
consecutive remainders with the coefficients `t₀`, `t₁`. -/
def bezout (r₀ r₁ : Nat) (t₀ t₁ : Int) : Int :=
  if _h : r₁ = 0 then t₀ else bezout r₁ (r₀ % r₁) t₁ (t₀ - (r₀ / r₁ : Nat) * t₁)
termination_by r₁
decreasing_by exact Nat.mod_lt _ (Nat.pos_of_ne_zero _h)

instance : CoordinateField Fp where
  add a b := ofNat (a.val + b.val)
  sub a b := ofNat (a.val + (modulus - b.val))
  mul a b := ofNat (a.val * b.val)
  neg a := ofNat (modulus - a.val)
  zero := ofNat 0
  ofNat := ofNat
  inv a := ofInt (bezout modulus a.val 0 1)

/-- Whether an element is in the upper half of the residues. -/
def isLarge (a : Fp) : Bool := decide ((modulus - 1) / 2 < a.val)

/-- Whether an element is a square: it is zero, or half the order of the group takes it to one. -/
def isSquare (a : Fp) : Bool := a.val == 0 || power a ((modulus - 1) / 2) == ofNat 1

/-- A square root, if the element is a square. -/
def root (a : Fp) : Fp := power a ((modulus + 1) / 4)

end Fp

/-! ## The quadratic extension -/

/-- The element `re + im · i`, where `i² = -1`. -/
structure Fp2 where
  re : Fp
  im : Fp
deriving DecidableEq

namespace Fp2

/-- The element of two residues. -/
def of (re im : Nat) : Fp2 := ⟨Fp.ofNat re, Fp.ofNat im⟩

/-- The norm, an element of the base field. -/
def norm (a : Fp2) : Fp := a.re * a.re + a.im * a.im

instance : CoordinateField Fp2 where
  add a b := ⟨a.re + b.re, a.im + b.im⟩
  sub a b := ⟨a.re - b.re, a.im - b.im⟩
  mul a b := ⟨a.re * b.re - a.im * b.im, a.re * b.im + a.im * b.re⟩
  neg a := ⟨-a.re, -a.im⟩
  zero := of 0 0
  ofNat n := of n 0
  inv a :=
    let n := inv a.norm
    ⟨a.re * n, -a.im * n⟩

/-- Whether an element is a square: its norm is one. -/
def isSquare (a : Fp2) : Bool := a.norm.isSquare

/-- The parity of an element: of its real part, or of the imaginary part if that is zero. -/
def isOdd (a : Fp2) : Bool :=
  if a.re.val = 0 then a.im.val % 2 == 1 else a.re.val % 2 == 1

/-- Whether an element is the larger of itself and its negative, the imaginary part first. -/
def isLarge (a : Fp2) : Bool :=
  if a.im.val = 0 then a.re.isLarge else a.im.isLarge

/-- A square root: half the sum, or the difference, of the real part and the root of the norm is
the square of the real part of the root. -/
def root? (a : Fp2) : Option Fp2 :=
  let half := inv (Fp.ofNat 2)
  let s := a.norm.root
  let candidate := (a.re + s) * half
  let square := if candidate.isSquare then candidate else (a.re - s) * half
  let x := square.root
  let r : Fp2 :=
    if x.val = 0 then ⟨x, (-a.re).root⟩ else ⟨x, a.im * inv (Fp.ofNat 2 * x)⟩
  if r * r = a then some r else none

end Fp2

end CoinPuzzles.Curve
