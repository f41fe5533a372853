/-!
# Bytes/Digits — hexadecimal digits

`hexDigit` writes a number below sixteen as a lower-case digit, `hexValue?` reads a digit of either
case; `hexValue?_hexDigit` says that reading undoes writing.
-/

namespace CoinPuzzles.Bytes

/-- The lower-case digit of a number below sixteen. -/
def hexDigit (n : Nat) : Char := Char.ofNat (if n < 10 then 48 + n else 87 + n)

/-- The value of a hexadecimal digit of either case. -/
def hexValue? (c : Char) : Option Nat :=
  let n := c.toNat
  if 48 ≤ n ∧ n ≤ 57 then some (n - 48)
  else if 97 ≤ n ∧ n ≤ 102 then some (n - 87)
  else if 65 ≤ n ∧ n ≤ 70 then some (n - 55)
  else none

/-- A hexadecimal digit of either case. -/
def isHexDigit (c : Char) : Bool := (hexValue? c).isSome

theorem hexValue?_lt {c : Char} {d : Nat} (h : hexValue? c = some d) : d < 16 := by
  simp only [hexValue?] at h
  split at h
  · injection h; omega
  · split at h
    · injection h; omega
    · split at h
      · injection h; omega
      · cases h

/-- **Reading a digit undoes writing it.** -/
theorem hexValue?_hexDigit {n : Nat} (h : n < 16) : hexValue? (hexDigit n) = some n := by
  have : ∀ m : Fin 16, hexValue? (hexDigit m) = some m.val := by decide
  exact this ⟨n, h⟩

end CoinPuzzles.Bytes
