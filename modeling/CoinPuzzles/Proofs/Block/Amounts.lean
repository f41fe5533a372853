import CoinPuzzles.Proofs.Block.Entries
import CoinPuzzles.Proofs.Coin.Identity

/-!
# Proofs/Block/Amounts — the string of an amount and the atoms of an entry

An entry of a block may spell its amount with zero bytes in front.  The report keeps the number and
not the atom, and the id is hashed over the string that is written for the number
(`CoinInfo.ofEntry_of_toInt`).  Main statement: that string is the only shortest one, and every atom
of the same number makes the same report (`CoinInfo.amountBytes_by_number`).
-/

namespace CoinPuzzles.CoinInfo

variable {r : Registry} {entry puzzle solution : Program} {parent atom : Bytes} {n : Nat}

/-- **The report on an entry has the number of its amount, whatever atom spells it.** -/
theorem ofEntry_of_toInt (h : entry.IsEntry parent puzzle atom solution)
    (hamount : atom.toInt = n) :
    ofEntry r entry = (puzzle.treeHash.mapError .program).map fun hash =>
      ⟨parent, puzzle, simplify r puzzle, n, solution, Coin.idOf parent hash n⟩ := by
  have hpositive : ¬ (n : Int) < 0 := by omega
  rw [ofEntry_isEntry h, hamount, if_neg hpositive, Int.toNat_natCast, Program.treeHash]
  by_cases hdepth : puzzle.depth ≤ Program.depthLimit
  · rw [if_neg (Nat.not_lt.2 hdepth), if_pos hdepth]
    rfl
  · rw [if_pos (Nat.not_le.1 hdepth), if_neg hdepth]
    rfl

/-- **An amount has one shortest string, and a report depends on nothing but its number.**  The
string reads back as the number, and the others that do are its paddings with zero bytes.  It is
empty for zero alone.  A zero byte is in front exactly if the rest, which is the number without
sign, would read as negative: if the byte after it is 128 or more.  An entry whose amount is any of
these strings is reported with the number, and its id is hashed over the one that is written. -/
theorem amountBytes_by_number (n : Nat) : ∃ bytes, Coin.amountBytes n = .ok bytes ∧
    bytes.toInt = n ∧ (∀ b, Bytes.IsShortest b n ↔ b = bytes) ∧
    (∀ b : Bytes, b.toInt = n ↔ ∃ k, b = List.replicate k 0 ++ bytes) ∧
    (bytes = [] ↔ n = 0) ∧
    (∀ b : Bytes, bytes = 0 :: b ↔ b.isNegative = true ∧ b.toNat = n) ∧
    ∀ {r entry parent puzzle atom solution}, Program.IsEntry entry parent puzzle atom solution →
      atom.toInt = n →
        ofEntry r entry = (puzzle.treeHash.mapError .program).map fun hash =>
          ⟨parent, puzzle, simplify r puzzle, n, solution,
            Sha256.digest (parent ++ hash ++ bytes)⟩ :=
  ⟨Bytes.ofUnsigned n, Coin.amountBytes_natCast n, Bytes.toInt_ofUnsigned n,
    fun _ => Bytes.isShortest_iff, fun _ => Bytes.toInt_eq_natCast_iff, Bytes.ofUnsigned_eq_nil_iff,
    fun _ => Bytes.ofUnsigned_eq_zero_cons_iff, ofEntry_of_toInt⟩

/-- The entry of a coin with repeated bytes as its parent, a trivial puzzle and the given amount. -/
def trivialEntry (atom : Bytes) : Program :=
  .ofList [.atom (List.replicate 32 1), .nil, .atom atom, .nil]

/-- The least amount that needs a byte for its sign, with two zero bytes more than it needs. -/
theorem amountBytes_by_number_padded :
    Bytes.toInt [0, 0, 0, 128] = 128 ∧ Bytes.toInt [0, 128] = 128 ∧
      ofEntry .empty (trivialEntry [0, 0, 0, 128]) = ofEntry .empty (trivialEntry [0, 128]) ∧
      ∃ info, ofEntry .empty (trivialEntry [0, 0, 0, 128]) = .ok info ∧ info.amount = 128 ∧
        info.coinId = Sha256.digest (List.replicate 32 1 ++ Program.nil.merkle ++ [0, 128]) := by
  have hentry : ∀ atom, (trivialEntry atom).IsEntry (List.replicate 32 1) .nil atom .nil :=
    fun _ => ⟨[], Program.elements_ofList _⟩
  have hpadded : Bytes.toInt [0, 0, 0, 128] = (128 : Nat) := by decide
  have hshort : Bytes.toInt [0, 128] = (128 : Nat) := by decide
  obtain ⟨bytes, hbytes, -, -, -, -, -, hreport⟩ := amountBytes_by_number 128
  have hwritten : Coin.amountBytes 128 = .ok [0, 128] := by cbv
  obtain rfl := Except.ok.inj (hwritten.symm.trans hbytes)
  have hhash : Program.nil.treeHash = .ok Program.nil.merkle :=
    Program.treeHash_eq_ok_iff.2 ⟨by decide, rfl⟩
  have hpaddedReport := hreport (r := .empty) (hentry _) hpadded
  have hshortReport := hreport (r := .empty) (hentry _) hshort
  refine ⟨hpadded, hshort, hpaddedReport.trans hshortReport.symm, ?_⟩
  rw [hpaddedReport, hhash]
  exact ⟨_, rfl, rfl, by dsimp only⟩

end CoinPuzzles.CoinInfo
