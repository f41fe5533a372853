import CoinPuzzles.Digest.Sha256
import CoinPuzzles.Program.Codec

/-!
# Program/TreeHash — the hash of a program tree

An atom is hashed after the byte `01`, a pair after the byte `02` through the hashes of its halves.
`treeHash` refuses trees past a depth limit; since every subtree is less deep, a tree that has a
hash has one at every subtree.
-/

namespace CoinPuzzles.Program

/-- The hash of a tree of any depth. -/
def merkle : Program → Bytes
  | atom b => Sha256.digest (1 :: b)
  | pair a b => Sha256.digest (2 :: (merkle a ++ merkle b))

/-- The greatest depth of a tree that is hashed. -/
def depthLimit : Nat := 990

/-- The hash of a tree within the depth limit. -/
def treeHash (p : Program) : Except ProgramError Bytes :=
  if p.depth ≤ depthLimit then .ok p.merkle else .error .tooDeep

@[simp] theorem length_merkle (p : Program) : p.merkle.length = 32 := by
  cases p <;> exact Sha256.length_digest _

/-- **A tree has a hash exactly if it is within the depth limit.** -/
theorem treeHash_eq_ok_iff {p : Program} {h : Bytes} :
    p.treeHash = .ok h ↔ p.depth ≤ depthLimit ∧ p.merkle = h := by
  rw [treeHash]
  split
  · next hd => simp [hd]
  · next hd => simp [hd]

end CoinPuzzles.Program
