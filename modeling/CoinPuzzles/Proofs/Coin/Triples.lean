import CoinPuzzles.Coin.Basic
import CoinPuzzles.Proofs.Outcome

/-!
# Proofs/Coin/Triples — which triples are coins

A triple has an id if its amount is not negative; it is a coin if its parent and its hash have 32
bytes besides (`Coin.exists_of?_iff`).  A coin has the id of its triple (`Coin.id_of_of?`).
-/

namespace CoinPuzzles.Coin

variable {parent puzzleHash : Bytes} {amount : Int} {c : Coin}

theorem of?_eq_ok_iff :
    of? parent puzzleHash amount = .ok c ↔
      c.parent = parent ∧ c.puzzleHash = puzzleHash ∧ (c.amount : Int) = amount := by
  rw [of?]
  constructor
  · intro h
    split at h
    · split at h
      · exact absurd h Outcome.error_ne_ok
      · obtain rfl := Except.ok.inj h
        exact ⟨rfl, rfl, Int.toNat_of_nonneg (by omega)⟩
    · exact absurd h Outcome.error_ne_ok
  · rintro ⟨rfl, rfl, rfl⟩
    rw [dif_pos ⟨c.length_parent, c.length_puzzleHash⟩, if_neg (by omega)]
    rfl

theorem exists_of? (hparent : parent.length = 32) (hhash : puzzleHash.length = 32)
    (hamount : 0 ≤ amount) : ∃ c, of? parent puzzleHash amount = .ok c :=
  ⟨⟨parent, puzzleHash, amount.toNat, hparent, hhash⟩,
    of?_eq_ok_iff.2 ⟨rfl, rfl, Int.toNat_of_nonneg hamount⟩⟩

/-- **A triple is a coin exactly if both hashes have 32 bytes and the amount is not negative.** -/
theorem exists_of?_iff :
    (∃ c, of? parent puzzleHash amount = .ok c) ↔
      parent.length = 32 ∧ puzzleHash.length = 32 ∧ 0 ≤ amount := by
  constructor
  · rintro ⟨c, hc⟩
    obtain ⟨rfl, rfl, rfl⟩ := of?_eq_ok_iff.1 hc
    exact ⟨c.length_parent, c.length_puzzleHash, Int.natCast_nonneg _⟩
  · rintro ⟨hparent, hhash, hamount⟩
    exact exists_of? hparent hhash hamount

/-- **A coin has the id of its triple.** -/
theorem id_of_of? {amount : Nat} (h : of? parent puzzleHash amount = .ok c) :
    c.id = idOf parent puzzleHash amount := by
  obtain ⟨rfl, rfl, hamount⟩ := of?_eq_ok_iff.1 h
  rw [id, Int.ofNat_inj.1 hamount]

end CoinPuzzles.Coin
