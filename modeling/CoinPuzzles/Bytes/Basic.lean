/-!
# Bytes/Basic — byte strings and the numbers they spell

A byte string is a list of bytes, highest first.  `toNat` reads it as a natural number, `toInt` in
two's complement; `ofNat` and `ofInt` write the shortest string of a number, `fixed` one of a given
width.  Zero is written by the empty string.
-/

namespace CoinPuzzles

/-- A string of bytes. -/
abbrev Bytes := List UInt8

namespace Bytes

/-- The bytes of a text of ASCII characters. -/
def ofAscii (s : String) : Bytes := s.toList.map fun c => UInt8.ofNat c.toNat

/-- The text whose characters are the bytes, if all of them are ASCII. -/
def toAscii? (b : Bytes) : Option String :=
  if b.all fun x => decide (x.toNat < 128) then
    some (String.ofList (b.map fun x => Char.ofNat x.toNat))
  else none

/-- The natural number a byte string spells, highest byte first. -/
def toNat (b : Bytes) : Nat := b.foldl (fun n x => n * 256 + x.toNat) 0

/-- The shortest byte string of a natural number. -/
def ofNat (n : Nat) : Bytes :=
  if n = 0 then [] else ofNat (n / 256) ++ [UInt8.ofNat (n % 256)]
termination_by n
decreasing_by omega

/-- The lowest `width` bytes of a natural number. -/
def fixed : Nat → Nat → Bytes
  | 0, _ => []
  | width + 1, n => fixed width (n / 256) ++ [UInt8.ofNat (n % 256)]

/-- Whether the highest bit of the first byte is set. -/
def isNegative : Bytes → Bool
  | [] => false
  | b :: _ => decide (128 ≤ b.toNat)

/-- The integer a byte string spells in two's complement. -/
def toInt (b : Bytes) : Int :=
  if b.isNegative then (b.toNat : Int) - Nat.pow 256 b.length else b.toNat

/-- The shortest two's complement string of a natural number: a zero byte goes in front of a byte
that would read as negative. -/
def ofUnsigned (n : Nat) : Bytes :=
  let b := ofNat n
  if b.isNegative then 0 :: b else b

/-- Every bit inverted; the empty string counts as a zero byte. -/
def complement : Bytes → Bytes
  | [] => [255]
  | b => b.map (255 - ·)

/-- The shortest two's complement string of an integer. -/
def ofInt : Int → Bytes
  | .ofNat n => ofUnsigned n
  | .negSucc k => complement (ofUnsigned k)

@[simp] theorem length_fixed : ∀ (width n : Nat), (fixed width n).length = width
  | 0, _ => rfl
  | width + 1, n => by simp [fixed, length_fixed width]

@[simp] theorem toNat_nil : toNat [] = 0 := rfl

@[simp] theorem toNat_append_singleton (b : Bytes) (x : UInt8) :
    toNat (b ++ [x]) = toNat b * 256 + x.toNat := by simp [toNat]

/-- **The shortest string of a natural number reads back.** -/
@[simp] theorem toNat_ofNat (n : Nat) : toNat (ofNat n) = n := by
  induction n using Nat.strongRecOn with
  | ind n ih =>
    rw [ofNat]
    split
    · next h => simp [h]
    · rw [toNat_append_singleton, ih _ (by omega), UInt8.toNat_ofNat']
      omega

theorem ofNat_zero : ofNat 0 = [] := by rw [ofNat]; simp

end Bytes

end CoinPuzzles
