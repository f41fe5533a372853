import CoinPuzzles.Block.CoinInfo
import CoinPuzzles.Proofs.Bytes.TwosComplement
import CoinPuzzles.Proofs.Coin.Triples
import CoinPuzzles.Proofs.Puzzle.Recognition

/-!
# Proofs/Block/Entries — what an entry of a block says

An entry is any program whose first four elements are a parent, a puzzle, an amount and a solution,
the first and the third of them atoms.

* `CoinInfo.ofEntry_eq_ok_iff`, `CoinInfo.ofEntry_eq_error_iff` — the report it has, or why it has
  none.
* `CoinInfo.denotesCoin_iff` — the report is on a coin exactly if the parent has 32 bytes.
* `BlockEntry.reportedAs_report` — the report on a spend says all that the spend says.
-/

namespace CoinPuzzles

open Program (depthLimit sizeLimit)

variable {r : Registry} {entry puzzle solution : Program} {parent amount : Bytes}

/-- The program starts with the four elements of an entry.  What follows them is not looked at, nor
is the atom that closes the list. -/
def Program.IsEntry (entry : Program) (parent : Bytes) (puzzle : Program) (amount : Bytes)
    (solution : Program) : Prop :=
  ∃ more, entry.elements = .atom parent :: puzzle :: .atom amount :: solution :: more

namespace CoinInfo

/-- The report on an entry that has one. -/
def ofParts (r : Registry) (parent : Bytes) (puzzle : Program) (amount : Nat)
    (solution : Program) : CoinInfo :=
  ⟨parent, puzzle, simplify r puzzle, amount, solution, Coin.idOf parent puzzle.merkle amount⟩

theorem ofEntry_isEntry (h : entry.IsEntry parent puzzle amount solution) :
    ofEntry r entry =
      if depthLimit < puzzle.depth then .error (.program .tooDeep)
      else if amount.toInt < 0 then .error (.coin (.negativeAmount amount.toInt))
      else .ok (ofParts r parent puzzle amount.toInt.toNat solution) := by
  obtain ⟨more, h⟩ := h
  rw [ofEntry, h]
  dsimp only
  rw [Program.treeHash]
  by_cases hdepth : puzzle.depth ≤ depthLimit
  · rw [if_pos hdepth, if_neg (Nat.not_lt.2 hdepth)]
    by_cases hamount : amount.toInt < 0
    · rw [if_pos hamount]
      simp only [Coin.idOf?, if_pos hamount]
      rfl
    · rw [if_neg hamount]
      simp only [Coin.idOf?, if_neg hamount]
      rfl
  · rw [if_neg hdepth, if_pos (Nat.not_le.1 hdepth)]
    rfl

/-- A program that is no entry is refused for its length or for its atoms. -/
theorem ofEntry_malformed (h : ∀ parent puzzle amount solution,
      ¬ entry.IsEntry parent puzzle amount solution) :
    ofEntry r entry = .error
      (if entry.elements.length < 4 then .shortEntry entry.elements.length else .notAtoms) := by
  rw [ofEntry]
  split
  · next first puzzle third solution more helements =>
    have hlong : ¬ entry.elements.length < 4 := by simp [helements]
    rw [if_neg hlong]
    split
    · next parent amount => exact absurd ⟨more, helements⟩ (h parent puzzle amount solution)
    · rfl
  · next hfew =>
    have hshort : entry.elements.length < 4 := by
      rcases helements : entry.elements with _ | ⟨a, _ | ⟨b, _ | ⟨c, _ | ⟨d, more⟩⟩⟩⟩
      · simp
      · simp
      · simp
      · simp
      · exact absurd helements (hfew a b c d more)
    rw [if_pos hshort]

/-- **A program has a report exactly if it is an entry whose puzzle has a tree hash and whose amount
is not negative.** -/
theorem ofEntry_eq_ok_iff {info : CoinInfo} :
    ofEntry r entry = .ok info ↔ ∃ parent puzzle amount solution,
      entry.IsEntry parent puzzle amount solution ∧ puzzle.depth ≤ depthLimit ∧
        0 ≤ amount.toInt ∧ info = ofParts r parent puzzle amount.toInt.toNat solution := by
  constructor
  · intro h
    by_cases hentry : ∃ parent puzzle amount solution, entry.IsEntry parent puzzle amount solution
    · obtain ⟨parent, puzzle, amount, solution, hentry⟩ := hentry
      rw [ofEntry_isEntry hentry] at h
      split_ifs at h with hdepth hamount
      obtain rfl := Except.ok.inj h
      exact ⟨_, _, _, _, hentry, Nat.not_lt.1 hdepth, Int.not_lt.1 hamount, rfl⟩
    · rw [ofEntry_malformed fun _ _ _ _ he => hentry ⟨_, _, _, _, he⟩] at h
      cases h
  · rintro ⟨parent, puzzle, amount, solution, hentry, hdepth, hamount, rfl⟩
    rw [ofEntry_isEntry hentry, if_neg (Nat.not_lt.2 hdepth), if_neg (Int.not_lt.2 hamount)]

/-- **A program has no report if it is no entry, if its puzzle has no tree hash, or else if its
amount is negative.** -/
theorem ofEntry_eq_error_iff {e : BlockError} :
    ofEntry r entry = .error e ↔
      ((∀ parent puzzle amount solution, ¬ entry.IsEntry parent puzzle amount solution) ∧
        e = if entry.elements.length < 4 then .shortEntry entry.elements.length else .notAtoms) ∨
      ∃ parent puzzle amount solution, entry.IsEntry parent puzzle amount solution ∧
        ((depthLimit < puzzle.depth ∧ e = .program .tooDeep) ∨
          (puzzle.depth ≤ depthLimit ∧ amount.toInt < 0 ∧
            e = .coin (.negativeAmount amount.toInt))) := by
  constructor
  · intro h
    by_cases hentry : ∃ parent puzzle amount solution, entry.IsEntry parent puzzle amount solution
    · obtain ⟨parent, puzzle, amount, solution, hentry⟩ := hentry
      refine .inr ⟨parent, puzzle, amount, solution, hentry, ?_⟩
      rw [ofEntry_isEntry hentry] at h
      split_ifs at h with hdepth hamount
      · exact .inl ⟨hdepth, (Except.error.inj h).symm⟩
      · exact .inr ⟨Nat.not_lt.1 hdepth, hamount, (Except.error.inj h).symm⟩
    · have hmalformed := fun a b c d he => hentry ⟨a, b, c, d, he⟩
      rw [ofEntry_malformed hmalformed] at h
      exact .inl ⟨hmalformed, (Except.error.inj h).symm⟩
  · rintro (⟨hmalformed, rfl⟩ | ⟨_, _, _, _, hentry, ⟨hdepth, rfl⟩ | ⟨hdepth, hamount, rfl⟩⟩)
    · exact ofEntry_malformed hmalformed
    · rw [ofEntry_isEntry hentry, if_pos hdepth]
    · rw [ofEntry_isEntry hentry, if_neg (Nat.not_lt.2 hdepth), if_pos hamount]

/-- **An entry whose puzzle has a tree hash has a report**, whatever its amount. -/
theorem ofEntry_ofList {amount : Nat} (hdepth : puzzle.depth ≤ depthLimit) :
    ofEntry r (.ofList [.atom parent, puzzle, .ofInt amount, solution]) =
      .ok ⟨parent, puzzle, simplify r puzzle, amount, solution,
        Coin.idOf parent puzzle.merkle amount⟩ := by
  have hentry : (Program.ofList [.atom parent, puzzle, .ofInt amount, solution]).IsEntry parent
      puzzle (Bytes.ofInt amount) solution :=
    ⟨[], Program.elements_ofList _⟩
  have hamount : ¬ (amount : Int) < 0 := by omega
  rw [ofEntry_isEntry hentry, if_neg (Nat.not_lt.2 hdepth), Bytes.toInt_ofInt, if_neg hamount]
  rfl

/-! ## What is in a report -/

/-- There is a coin of the parent, the puzzle and the amount in the report, and the id is its id. -/
def DenotesCoin (info : CoinInfo) : Prop :=
  ∃ hash c, info.puzzle.treeHash = .ok hash ∧ Coin.of? info.parent hash info.amount = .ok c ∧
    c.id = info.coinId

/-- **A report is on a coin exactly if the parent has 32 bytes.** -/
theorem denotesCoin_iff {info : CoinInfo} (h : ofEntry r entry = .ok info) :
    info.DenotesCoin ↔ info.parent.length = 32 := by
  obtain ⟨parent, puzzle, amount, solution, -, hdepth, -, rfl⟩ := ofEntry_eq_ok_iff.1 h
  constructor
  · rintro ⟨hash, c, -, hc, -⟩
    exact (Coin.exists_of?_iff.1 ⟨c, hc⟩).1
  · intro hparent
    obtain ⟨c, hc⟩ := Coin.exists_of? hparent (Program.length_merkle puzzle)
      (Int.natCast_nonneg amount.toInt.toNat)
    exact ⟨_, c, Program.treeHash_eq_ok_iff.2 ⟨hdepth, rfl⟩, hc, Coin.id_of_of? hc⟩

/-- The fields of the document of a report, for an amount that has the given numeral. -/
structure DocumentedAs (info : CoinInfo) (amount : String) (entries : List (Value × Value)) :
    Prop where
  parent_eq : Value.find? "parent" entries = some (.text (Bytes.toMarkedHex info.parent))
  puzzle_eq : Value.find? "puzzle" entries = some (.text info.puzzle.toHex)
  node_eq : Value.find? "parsed_puzzle" entries = some info.node.toDocument
  amount_eq : Value.find? "amount" entries = some (.text amount)
  solution_eq : Value.find? "solution" entries = some (.text info.solution.toHex)
  coinId_eq : Value.find? "coin_name" entries = some (.text (Bytes.toMarkedHex info.coinId))
  path_eq : Value.find? "mods" entries = some (.text info.node.path)
  keyParam_eq : Value.find? "key_param" entries = info.node.keyParam?.map .text

/-- **A report has a document if its amount has a numeral.** -/
theorem exists_document {info : CoinInfo} {amount : String}
    (h : Numeral.write info.amount = .ok amount) :
    ∃ entries, info.toDocument = .ok (.map entries) ∧ info.DocumentedAs amount entries := by
  rw [toDocument, h]
  cases hkey : info.node.keyParam? with
  | none => exact ⟨_, rfl, rfl, rfl, rfl, rfl, rfl, rfl, rfl, by rw [hkey]; rfl⟩
  | some key => exact ⟨_, rfl, rfl, rfl, rfl, rfl, rfl, rfl, rfl, by rw [hkey]; rfl⟩

end CoinInfo

/-! ## The spends of a block -/

/-- The spend of a coin as a block lists it. -/
structure BlockEntry where
  parent : Bytes
  puzzle : Program
  amount : Nat
  solution : Program

namespace BlockEntry

/-- The list of the four parts. -/
def toProgram (e : BlockEntry) : Program :=
  .ofList [.atom e.parent, e.puzzle, .ofInt e.amount, e.solution]

/-- The report says of the entry what it has to say.  The id is the one that the coin of the entry
has, if there is one: if the parent can be the id of a coin. -/
structure ReportedAs (r : Registry) (e : BlockEntry) (info : CoinInfo) : Prop where
  parent_eq : info.parent = e.parent
  amount_eq : info.amount = e.amount
  puzzle_read : Program.ofHex info.puzzle.toHex = .ok e.puzzle
  solution_read : Program.ofHex info.solution.toHex = .ok e.solution
  rebuild_eq (hfree : Sha256.CollisionFree (e.puzzle.messages ++ r.messages)) :
    info.node.rebuild r = .ok e.puzzle
  coinId_eq : ∃ hash, e.puzzle.treeHash = .ok hash ∧
    info.coinId = Sha256.digest (e.parent ++ hash ++ Bytes.ofUnsigned e.amount) ∧
    Bytes.IsShortest (Bytes.ofUnsigned e.amount) e.amount ∧
    (e.parent.length = 32 → ∃ c, Coin.of? e.parent hash e.amount = .ok c ∧ c.id = info.coinId)
  documented {amount : String} (h : Numeral.write e.amount = .ok amount) :
    ∃ entries, info.toDocument = .ok (.map entries) ∧ info.DocumentedAs amount entries

variable {e : BlockEntry}

/-- The report on the entry. -/
def report (r : Registry) (e : BlockEntry) : CoinInfo :=
  .ofParts r e.parent e.puzzle e.amount e.solution

theorem ofEntry_toProgram (r : Registry) (hdepth : e.puzzle.depth ≤ depthLimit) :
    CoinInfo.ofEntry r e.toProgram = .ok (e.report r) :=
  CoinInfo.ofEntry_ofList hdepth

/-- **The report says what the entry says**, if the entry can be written and its puzzle hashed. -/
theorem reportedAs_report (r : Registry) (hdepth : e.puzzle.depth ≤ depthLimit)
    (hfits : e.toProgram.fits = true) : e.ReportedAs r (e.report r) := by
  rw [toProgram, Program.fits_ofList] at hfits
  have hpuzzle := Program.fits_iff.1 (hfits e.puzzle (by simp))
  have hsolution := Program.fits_iff.1 (hfits e.solution (by simp))
  exact {
    parent_eq := rfl
    amount_eq := rfl
    puzzle_read := Program.ofHex_toHex hpuzzle
    solution_read := Program.ofHex_toHex hsolution
    rebuild_eq := rebuild_simplify r e.puzzle hpuzzle
    coinId_eq := by
      refine ⟨_, Program.treeHash_eq_ok_iff.2 ⟨hdepth, rfl⟩, ?_,
        Bytes.isShortest_ofUnsigned e.amount, fun hparent => ?_⟩
      · rw [report, CoinInfo.ofParts, Coin.idOf]
      · have hamount : (0 : Int) ≤ e.amount := Int.natCast_nonneg _
        obtain ⟨c, hc⟩ := Coin.exists_of? hparent (Program.length_merkle e.puzzle) hamount
        exact ⟨c, hc, Coin.id_of_of? hc⟩
    documented := fun h => CoinInfo.exists_document h }

end BlockEntry

end CoinPuzzles
