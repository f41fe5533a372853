import CoinPuzzles.Program.TreeHash
import CoinPuzzles.Proofs.Program.Parts

/-!
# Proofs/Program/HashBinding — a tree hash has one tree

`messages` lists what the digest is taken of on the way to a tree hash.  As long as no two of the
messages of two trees share a digest, the trees are equal if their hashes are: `eq_of_merkle_eq`.
A tree that has a hash has one at every part of it: `Subtree.treeHash_eq`.
-/

namespace CoinPuzzles

/-- No two of the messages have one digest. -/
def Sha256.CollisionFree (ms : List Bytes) : Prop :=
  ∀ m ∈ ms, ∀ n ∈ ms, digest m = digest n → m = n

instance (ms : List Bytes) : Decidable (Sha256.CollisionFree ms) :=
  inferInstanceAs (Decidable (∀ m ∈ ms, ∀ n ∈ ms, Sha256.digest m = Sha256.digest n → m = n))

theorem Sha256.CollisionFree.mono {ms ms' : List Bytes} (h : CollisionFree ms) (hms : ms' ⊆ ms) :
    CollisionFree ms' :=
  fun m hm n hn => h m (hms hm) n (hms hn)

theorem Sha256.CollisionFree.append_mono {ms ms' ns ns' : List Bytes}
    (h : CollisionFree (ms ++ ns)) (hms : ms' ⊆ ms) (hns : ns' ⊆ ns) :
    CollisionFree (ms' ++ ns') := by
  refine h.mono fun m hm => ?_
  rcases List.mem_append.1 hm with hm | hm
  · exact List.mem_append_left _ (hms hm)
  · exact List.mem_append_right _ (hns hm)

namespace Program

/-- The message whose digest is the hash of the tree. -/
def message : Program → Bytes
  | atom b => 1 :: b
  | pair p q => 2 :: (p.merkle ++ q.merkle)

/-- The messages that are hashed for the tree, its own first. -/
def messages : Program → List Bytes
  | atom b => [message (atom b)]
  | pair p q => message (pair p q) :: (p.messages ++ q.messages)

/-- **The hash of a program is the digest of its message.** -/
theorem merkle_eq_digest (p : Program) : p.merkle = Sha256.digest p.message := by
  cases p <;> rw [merkle, message]

/-- The message of a program is the first of those that are hashed for it. -/
theorem message_mem_messages (p : Program) : p.message ∈ p.messages := by
  cases p <;> exact List.mem_cons_self

theorem Subtree.messages_subset {s p : Program} (h : Subtree s p) : s.messages ⊆ p.messages := by
  induction h with
  | refl => exact List.Subset.refl _
  | left q _ ih => exact fun m hm => List.mem_cons_of_mem _ (List.mem_append_left _ (ih hm))
  | right p _ ih => exact fun m hm => List.mem_cons_of_mem _ (List.mem_append_right _ (ih hm))

/-- **A part of a tree that has a hash has one too.** -/
theorem Subtree.treeHash_eq {s p : Program} {hash : Bytes} (hs : Subtree s p)
    (h : p.treeHash = .ok hash) : s.treeHash = .ok s.merkle := by
  obtain ⟨hdepth, -⟩ := treeHash_eq_ok_iff.1 h
  exact treeHash_eq_ok_iff.2 ⟨Nat.le_trans hs.depth_le hdepth, rfl⟩

/-- A part of a tree collides with no more than the tree does. -/
theorem Subtree.collisionFree {s p : Program} {ms : List Bytes} (hs : Subtree s p)
    (h : Sha256.CollisionFree (p.messages ++ ms)) : Sha256.CollisionFree (s.messages ++ ms) :=
  h.append_mono hs.messages_subset (List.Subset.refl _)

/-- **One hash means one message**, if no two messages collide. -/
theorem message_eq_of_merkle_eq {p q : Program}
    (hfree : Sha256.CollisionFree (p.messages ++ q.messages)) (h : p.merkle = q.merkle) :
    p.message = q.message := by
  rw [merkle_eq_digest, merkle_eq_digest] at h
  exact hfree _ (List.mem_append_left _ (message_mem_messages p)) _
    (List.mem_append_right _ (message_mem_messages q)) h

/-- **Trees of one hash are equal**, unless two of their messages collide. -/
theorem eq_of_merkle_eq : ∀ {p q : Program},
    Sha256.CollisionFree (p.messages ++ q.messages) → p.merkle = q.merkle → p = q := by
  intro p
  induction p with
  | atom b =>
    intro q hfree h
    have hmessage := message_eq_of_merkle_eq hfree h
    cases q with
    | atom c => exact congrArg atom (List.cons.inj hmessage).2
    | pair c d => exact absurd (List.cons.inj hmessage).1 (by decide)
  | pair p₁ p₂ ih₁ ih₂ =>
    intro q hfree h
    have hmessage := message_eq_of_merkle_eq hfree h
    cases q with
    | atom c => exact absurd (List.cons.inj hmessage).1 (by decide)
    | pair q₁ q₂ =>
      -- Both hashes have 32 bytes, so the message splits in one place.
      have hlen : p₁.merkle.length = q₁.merkle.length := by
        rw [length_merkle, length_merkle]
      obtain ⟨h₁, h₂⟩ := List.append_inj (List.cons.inj hmessage).2 hlen
      have hleft := hfree.append_mono (Subtree.left p₂ (.refl p₁)).messages_subset
        (Subtree.left q₂ (.refl q₁)).messages_subset
      have hright := hfree.append_mono (Subtree.right p₁ (.refl p₂)).messages_subset
        (Subtree.right q₁ (.refl q₂)).messages_subset
      rw [ih₁ hleft h₁, ih₂ hright h₂]

end Program

end CoinPuzzles
