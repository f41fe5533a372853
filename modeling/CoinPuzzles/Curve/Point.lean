import CoinPuzzles.Curve.Field

/-!
# Curve/Point — points of a curve `y² = x³ + b`

Points are added by the chord and tangent rule; `times` adds a point to itself any number of times.
-/

namespace CoinPuzzles.Curve

/-- A point with coordinates in a field, or the point at infinity. -/
inductive Point (F : Type) where
  | infinity
  | affine (x y : F)
deriving DecidableEq

namespace Point

variable {F : Type} [CoordinateField F] [DecidableEq F]

/-- The third point on the line of slope `l` through two points, reflected. -/
def onLine (l x₁ y₁ x₂ : F) : Point F :=
  let x := l * l - x₁ - x₂
  affine x (l * (x₁ - x) - y₁)

/-- The sum of two points. -/
def add : Point F → Point F → Point F
  | infinity, q => q
  | p, infinity => p
  | affine x₁ y₁, affine x₂ y₂ =>
    if x₁ = x₂ then
      if y₁ + y₂ = CoordinateField.zero then infinity
      else
        onLine (CoordinateField.ofNat 3 * x₁ * x₁ * inv (CoordinateField.ofNat 2 * y₁)) x₁ y₁ x₂
    else onLine ((y₂ - y₁) * inv (x₂ - x₁)) x₁ y₁ x₂

/-- The sum of `n` copies of a point. -/
def times (n : Nat) (p : Point F) : Point F :=
  if n = 0 then infinity
  else
    let q := times (n / 2) p
    let d := q.add q
    if n % 2 = 0 then d else d.add p
termination_by n
decreasing_by omega

/-- The sum of a list of points. -/
def sum (ps : List (Point F)) : Point F := ps.foldl add infinity

end Point

/-- The order of the groups of public keys and of signatures. -/
def groupOrder : Nat := 0x73eda753299d7d483339d80809a1d80553bda402fffe5bfeffffffff00000001

/-- The generator of the group of public keys. -/
def generator : Point Fp := .affine
  (Fp.ofNat
    0x17f1d3a73197d7942695638c4fa9ac0fc3688c4f9774b905a14e3a3f171bac586c55e83ff97a1aeffb3af00adb22c6bb)
  (Fp.ofNat
    0x08b3f481e3aaa0f1a09e30ed741d8ae4fcf5e095d5d00af600db18cb2c04b3edd03cc744a2888ae40caa232946c5e7e1)

end CoinPuzzles.Curve
