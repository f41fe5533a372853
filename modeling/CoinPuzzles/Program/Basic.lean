import CoinPuzzles.Bytes.Basic

/-!
# Program/Basic — program trees

A program is a binary tree with byte strings at its leaves.  A list is a chain of pairs closed by
the empty atom; `elements` reads the entries of any chain, whatever atom closes it.
-/

namespace CoinPuzzles

/-- A program: an atom or a pair of programs. -/
inductive Program where
  | atom (bytes : Bytes)
  | pair (left right : Program)
deriving DecidableEq

namespace Program

/-- The empty atom, which closes a list. -/
def nil : Program := atom []

/-- The list of the given programs. -/
def ofList (ps : List Program) : Program := ps.foldr pair nil

/-- The entries of a chain of pairs; the atom that closes it is not looked at. -/
def elements : Program → List Program
  | atom _ => []
  | pair a b => a :: elements b

/-- Whether the program is a pair. -/
def isPair : Program → Bool
  | atom _ => false
  | pair _ _ => true

/-- The greatest number of pairs on the way to a leaf. -/
def depth : Program → Nat
  | atom _ => 0
  | pair a b => max a.depth b.depth + 1

/-- The atom of an integer. -/
def ofInt (n : Int) : Program := atom (Bytes.ofInt n)

@[simp] theorem elements_ofList : ∀ ps : List Program, (ofList ps).elements = ps
  | [] => rfl
  | p :: ps => congrArg (p :: ·) (elements_ofList ps)

theorem depth_left_lt (a b : Program) : a.depth < (pair a b).depth := by
  simp only [depth]; omega

theorem depth_right_lt (a b : Program) : b.depth < (pair a b).depth := by
  simp only [depth]; omega

end Program

end CoinPuzzles
