/-!
# Text/Changes — classes of characters as lists of changes

A class that alternates along the code points is given by the points where membership changes, in
ascending order, starting from outside.
-/

namespace CoinPuzzles.Text

/-- A code point is in the class if an odd number of changes lies at or before it. -/
def holdsAt (changes : List Nat) (n : Nat) : Bool :=
  (changes.takeWhile (· ≤ n)).length % 2 == 1

@[simp] theorem holdsAt_nil (n : Nat) : holdsAt [] n = false := rfl

/-- Before the first change there is nothing in the class. -/
theorem holdsAt_of_lt {first n : Nat} (rest : List Nat) (h : n < first) :
    holdsAt (first :: rest) n = false := by
  have hd : decide (first ≤ n) = false := decide_eq_false (by omega)
  simp [holdsAt, hd]

/-- **From the first change on, the rest of the list decides, the other way round.** -/
theorem holdsAt_of_le {first n : Nat} (rest : List Nat) (h : first ≤ n) :
    holdsAt (first :: rest) n = !holdsAt rest n := by
  have hd : decide (first ≤ n) = true := decide_eq_true h
  have hm : ∀ k : Nat, ((k + 1) % 2 == 1) = !(k % 2 == 1) := by
    intro k
    rcases Nat.mod_two_eq_zero_or_one k with h | h <;> simp [Nat.add_mod, h]
  simp only [holdsAt, List.takeWhile_cons, hd, if_true, List.length_cons]
  exact hm _

end CoinPuzzles.Text
