import CoinPuzzles.Proofs.Bytes.TwosComplement
import CoinPuzzles.Proofs.Coin.Triples
import CoinPuzzles.Proofs.Digest.Evaluation
import CoinPuzzles.Proofs.Program.HashBinding

/-!
# Proofs/Coin/Identity — a coin is known by its id

The id of a coin is the digest of a message in which the amount follows the two hashes without a
size in front of it.  The hashes have 32 bytes each and an amount has one shortest string, so the
message can be taken apart again: `message_inj`.  Main statement: two triples that are coins have
one id exactly if they are one triple, unless their messages collide (`id_identifies_triple`).
-/

namespace CoinPuzzles.Coin

variable {c d : Coin}

/-- The message whose digest is the id of the coin. -/
def message (c : Coin) : Bytes := c.parent ++ c.puzzleHash ++ Bytes.ofUnsigned c.amount

theorem id_eq_digest (c : Coin) : c.id = Sha256.digest c.message := rfl

theorem eq_iff_triple :
    c = d ↔ c.parent = d.parent ∧ c.puzzleHash = d.puzzleHash ∧ c.amount = d.amount := by
  cases c
  cases d
  rw [Coin.mk.injEq]

/-- **A message has one coin.**  Where the hashes end in it is known from their size alone, and what
is left is the string of one amount. -/
theorem message_inj : c.message = d.message ↔ c = d := by
  constructor
  · intro h
    have hparent : c.parent.length = d.parent.length := c.length_parent.trans d.length_parent.symm
    have hhash : c.puzzleHash.length = d.puzzleHash.length :=
      c.length_puzzleHash.trans d.length_puzzleHash.symm
    rw [message, message, List.append_assoc, List.append_assoc] at h
    obtain ⟨hparent, h⟩ := List.append_inj h hparent
    obtain ⟨hhash, hamount⟩ := List.append_inj h hhash
    exact eq_iff_triple.2 ⟨hparent, hhash, Bytes.ofUnsigned_inj.1 hamount⟩
  · rintro rfl
    rfl

/-- **Coins of one id are equal**, unless their messages collide. -/
theorem id_inj (hfree : Sha256.CollisionFree [c.message, d.message]) : c.id = d.id ↔ c = d := by
  rw [← message_inj, id_eq_digest, id_eq_digest]
  constructor
  · exact hfree _ List.mem_cons_self _ (List.mem_cons_of_mem _ List.mem_cons_self)
  · exact congrArg Sha256.digest

theorem amountBytes_natCast (n : Nat) : amountBytes n = .ok (Bytes.ofUnsigned n) := by
  rw [amountBytes, if_neg (by omega), Int.toNat_natCast]

/-- **A coin is its triple.**  The id of a coin is the digest of its parent, its hash and the string
of its amount.  These messages are equal for equal triples alone, whatever the size of the amounts,
and so are the ids unless the two messages collide. -/
theorem id_identifies_triple {parent parent' puzzleHash puzzleHash' : Bytes} {amount amount' : Int}
    (h : of? parent puzzleHash amount = .ok c) (h' : of? parent' puzzleHash' amount' = .ok d) :
    ∃ bytes bytes', amountBytes amount = .ok bytes ∧ amountBytes amount' = .ok bytes' ∧
      c.id = Sha256.digest (parent ++ puzzleHash ++ bytes) ∧
      d.id = Sha256.digest (parent' ++ puzzleHash' ++ bytes') ∧
      (parent ++ puzzleHash ++ bytes = parent' ++ puzzleHash' ++ bytes' ↔
        parent = parent' ∧ puzzleHash = puzzleHash' ∧ amount = amount') ∧
      (Sha256.CollisionFree [parent ++ puzzleHash ++ bytes, parent' ++ puzzleHash' ++ bytes'] →
        (c.id = d.id ↔ parent = parent' ∧ puzzleHash = puzzleHash' ∧ amount = amount')) := by
  obtain ⟨rfl, rfl, rfl⟩ := of?_eq_ok_iff.1 h
  obtain ⟨rfl, rfl, rfl⟩ := of?_eq_ok_iff.1 h'
  rw [Int.ofNat_inj, ← eq_iff_triple]
  exact ⟨_, _, amountBytes_natCast _, amountBytes_natCast _, id_eq_digest c, id_eq_digest d,
    message_inj, id_inj⟩

/-- The coin of an amount, its two hashes made of repeated bytes. -/
def repeated (amount : Nat) : Coin :=
  ⟨List.replicate 32 1, List.replicate 32 2, amount, List.length_replicate, List.length_replicate⟩

/-- The greatest amount of one byte and the least that needs a byte for its sign. -/
theorem id_identifies_triple_repeated :
    of? (List.replicate 32 1) (List.replicate 32 2) 127 = .ok (repeated 127) ∧
      of? (List.replicate 32 1) (List.replicate 32 2) 128 = .ok (repeated 128) ∧
      Sha256.CollisionFree [List.replicate 32 1 ++ List.replicate 32 2 ++ [127],
        List.replicate 32 1 ++ List.replicate 32 2 ++ [0, 128]] ∧
      (repeated 127).id ≠ (repeated 128).id := by
  have hlow : of? (List.replicate 32 1) (List.replicate 32 2) 127 = .ok (repeated 127) := rfl
  have hhigh : of? (List.replicate 32 1) (List.replicate 32 2) 128 = .ok (repeated 128) := rfl
  obtain ⟨bytes, bytes', hbytes, hbytes', -, -, -, hid⟩ := id_identifies_triple hlow hhigh
  have hlowBytes : amountBytes 127 = .ok [127] := by cbv
  have hhighBytes : amountBytes 128 = .ok [0, 128] := by cbv
  obtain rfl := Except.ok.inj (hlowBytes.symm.trans hbytes)
  obtain rfl := Except.ok.inj (hhighBytes.symm.trans hbytes')
  have hfree : Sha256.CollisionFree [List.replicate 32 1 ++ List.replicate 32 2 ++ [127],
      List.replicate 32 1 ++ List.replicate 32 2 ++ [0, 128]] := by
    simp only [Sha256.CollisionFree, ← Sha256.evaluate_eq_digest]
    decide +kernel
  exact ⟨hlow, hhigh, hfree, fun h => absurd ((hid hfree).1 h).2.2 (by decide)⟩

/-- Without the sizes of the hashes the messages of two triples are not told apart. -/
example : idOf [1, 2] [3] 4 = idOf [1] [2, 3] 4 := rfl

end CoinPuzzles.Coin
