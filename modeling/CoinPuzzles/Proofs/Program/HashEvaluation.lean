import CoinPuzzles.Proofs.Digest.Evaluation
import CoinPuzzles.Proofs.Program.HashBinding
import Mathlib.Data.List.Dedup

/-!
# Proofs/Program/HashEvaluation — tree hashes that a proof can compute

`computedHash` is `merkle` with digests on natural numbers, and `digests` lists the messages of a
tree with their digests, each of them computed once.  That no messages of given trees collide is
then a computation: `collisionFree_of_nodup`.
-/

namespace CoinPuzzles.Program

/-- The hash of a tree, computed on natural numbers. -/
def computedHash : Program → Bytes
  | atom b => Sha256.evaluate (1 :: b)
  | pair p q => Sha256.evaluate (2 :: (p.computedHash ++ q.computedHash))

theorem computedHash_eq_merkle (p : Program) : p.computedHash = p.merkle := by
  induction p with
  | atom b => rw [computedHash, merkle, Sha256.evaluate_eq_digest]
  | pair p q ihp ihq => rw [computedHash, merkle, Sha256.evaluate_eq_digest, ihp, ihq]

/-- The digest of the first message of a list. -/
def firstDigest : List (Bytes × Bytes) → Bytes
  | [] => []
  | (_, digest) :: _ => digest

/-- The messages that are hashed for a tree and their digests, computed on natural numbers.  The
message of a pair takes the digests of its halves from their lists. -/
def digests : Program → List (Bytes × Bytes)
  | atom b => [(1 :: b, Sha256.evaluate (1 :: b))]
  | pair p q =>
    let left := p.digests
    let right := q.digests
    let message := 2 :: (firstDigest left ++ firstDigest right)
    (message, Sha256.evaluate message) :: (left ++ right)

theorem firstDigest_map_messages (p : Program) :
    firstDigest (p.messages.map fun m => (m, Sha256.digest m)) = p.merkle := by
  cases p <;> exact (merkle_eq_digest _).symm

theorem digests_eq_map (p : Program) :
    p.digests = p.messages.map fun m => (m, Sha256.digest m) := by
  induction p with
  | atom b => rw [digests, messages, message, Sha256.evaluate_eq_digest, List.map_singleton]
  | pair p q ihp ihq =>
    simp only [digests, messages, message, ihp, ihq, firstDigest_map_messages,
      Sha256.evaluate_eq_digest, List.map_cons, List.map_append]

/-- **Trees whose messages are computed to have different digests do not collide.** -/
theorem collisionFree_of_nodup (ps : List Program)
    (h : ((ps.flatMap digests).dedup.map Prod.snd).Nodup) :
    Sha256.CollisionFree (ps.flatMap messages) := by
  have hmem {m : Bytes} (hm : m ∈ ps.flatMap messages) :
      (m, Sha256.digest m) ∈ (ps.flatMap digests).dedup := by
    obtain ⟨p, hp, hm⟩ := List.mem_flatMap.1 hm
    refine List.mem_dedup.2 (List.mem_flatMap.2 ⟨p, hp, ?_⟩)
    rw [digests_eq_map]
    exact List.mem_map_of_mem hm
  intro m hm n hn hdigest
  exact congrArg Prod.fst (List.inj_on_of_nodup_map h (hmem hm) (hmem hn) hdigest)

end CoinPuzzles.Program
