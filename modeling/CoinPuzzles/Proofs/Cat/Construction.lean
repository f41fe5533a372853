import CoinPuzzles.Cat.Puzzle
import CoinPuzzles.Proofs.Coin.Triples
import CoinPuzzles.Proofs.Program.CurryShape
import CoinPuzzles.Proofs.Program.Encoding
import CoinPuzzles.Proofs.Program.HashEvaluation
import CoinPuzzles.Proofs.Template.Registered

/-!
# Proofs/Cat/Construction — what an asset puzzle and its first spend are made of

* `CatPuzzle.make_eq_ok_iff` — the puzzle is built exactly if both templates are registered and it
  is within the depth limit of the tree hash; then it is `CatPuzzle.ofTemplates`.
* `CatPuzzle.eveSpend_eq_ok_iff` — the first spend exists exactly if the triple is a coin and both
  programs can be written; `CatPuzzle.exists_eveSpend` says when they can.
-/

namespace CoinPuzzles

open Program (Subtree depthLimit sizeLimit)

variable {r : Registry} {coinId target : Bytes} {amount : Int} {memo template : String}

namespace CatPuzzle

variable {p : CatPuzzle}

/-! ## The puzzle -/

/-- The asset puzzle that two templates make, whatever its depth. -/
def ofTemplates (genesis cat : Template) (coinId target : Bytes) (amount : Int) (memo : String) :
    CatPuzzle :=
  let tail := genesis.program.curry [.atom coinId]
  let inner := innerPuzzle tail target amount memo
  let puzzle := cat.program.curry [.atom cat.hash, .atom tail.merkle, inner]
  { bootstrapCoinId := coinId, tail, tailHash := tail.merkle, inner, innerHash := inner.merkle,
    puzzle, puzzleHash := puzzle.merkle }

/-- The first of the conditions that the inner puzzle quotes holds the tail. -/
theorem subtree_tail (tail : Program) : Subtree tail (innerPuzzle tail target amount memo) :=
  .right _ (.left _ (Program.subtree_ofList (by simp)))

variable {genesis cat : Template}

theorem subtree_inner :
    Subtree (ofTemplates genesis cat coinId target amount memo).inner
      (ofTemplates genesis cat coinId target amount memo).puzzle :=
  Program.subtree_curry_arg _ (by simp [ofTemplates])

theorem length_tailHash :
    (ofTemplates genesis cat coinId target amount memo).tailHash.length = 32 :=
  Program.length_merkle _

/-- **A puzzle is built exactly if its templates are registered and it has a tree hash.** -/
theorem make_eq_ok_iff :
    make r coinId target amount memo template = .ok p ↔
      template ∈ templates ∧ ∃ genesis cat, r.get Template.genesisByCoinId = .ok genesis ∧
        r.get template = .ok cat ∧ p = ofTemplates genesis cat coinId target amount memo ∧
        p.puzzle.depth ≤ depthLimit := by
  rw [make, Outcome.guard_eq_ok_iff, Bool.not_eq_true, Bool.not_eq_false', List.contains_iff_mem]
  simp only [Outcome.bind_eq_ok_iff, Outcome.mapError_eq_ok_iff, Outcome.pure_eq_ok_iff,
    Program.treeHash_eq_ok_iff]
  constructor
  · rintro ⟨htemplate, genesis, hgenesis, _, ⟨-, rfl⟩, _, ⟨-, rfl⟩, cat, hcat, _, ⟨hdepth, rfl⟩,
      rfl⟩
    exact ⟨htemplate, genesis, cat, hgenesis, hcat, rfl, hdepth⟩
  · rintro ⟨htemplate, genesis, cat, hgenesis, hcat, rfl, hdepth⟩
    -- The tail and the inner puzzle are parts of the puzzle, so no more than its depth is asked.
    have hinner := subtree_inner.depth_le.trans hdepth
    have htail := (subtree_tail _).depth_le.trans hinner
    exact ⟨htemplate, genesis, hgenesis, _, ⟨htail, rfl⟩, _, ⟨hinner, rfl⟩, cat, hcat, _,
      ⟨hdepth, rfl⟩, rfl⟩

theorem bootstrapCoinId_of_make (h : make r coinId target amount memo template = .ok p) :
    p.bootstrapCoinId = coinId := by
  obtain ⟨-, genesis, cat, -, -, rfl, -⟩ := make_eq_ok_iff.1 h
  rfl

/-- **The tail is the registered module with the bootstrap coin bound**, and with nothing else. -/
theorem exists_tail_of_make (h : make r coinId target amount memo template = .ok p) :
    ∃ tail, r.get Template.genesisByCoinId = .ok tail ∧
      p.tail = tail.program.curry [.atom coinId] := by
  obtain ⟨-, genesis, cat, hgenesis, -, rfl, -⟩ := make_eq_ok_iff.1 h
  exact ⟨genesis, hgenesis, rfl⟩

/-- **The hashes of a puzzle are tree hashes of its programs.** -/
theorem treeHash_of_make (h : make r coinId target amount memo template = .ok p) :
    p.tail.treeHash = .ok p.tailHash ∧ p.inner.treeHash = .ok p.innerHash ∧
      p.puzzle.treeHash = .ok p.puzzleHash := by
  obtain ⟨-, genesis, cat, -, -, rfl, hdepth⟩ := make_eq_ok_iff.1 h
  have hpuzzle := Program.treeHash_eq_ok_iff.2 ⟨hdepth, rfl⟩
  have hinner := subtree_inner.treeHash_eq hpuzzle
  exact ⟨(subtree_tail _).treeHash_eq hinner, hinner, hpuzzle⟩

theorem length_puzzleHash_of_make (h : make r coinId target amount memo template = .ok p) :
    p.puzzleHash.length = 32 := by
  rw [← (Program.treeHash_eq_ok_iff.1 (treeHash_of_make h).2.2).2, Program.length_merkle]

/-! ## The first spend -/

/-- **There is a first spend exactly if its coin is one and both programs can be written**, and
these are what it carries. -/
theorem eveSpend_eq_ok_iff {s : Spend} :
    p.eveSpend amount = .ok s ↔
      ∃ coin, Coin.of? p.bootstrapCoinId p.puzzleHash amount = .ok coin ∧
        p.puzzle.fits = true ∧ (p.eveSolution coin).fits = true ∧
        s = ⟨coin, p.puzzle.encode, (p.eveSolution coin).encode⟩ := by
  rw [eveSpend, Outcome.bind_eq_ok_iff]
  refine exists_congr fun coin => and_congr_right fun _ => ?_
  rw [← and_assoc, ← Bool.and_eq_true]
  dsimp only
  split
  · next h => rw [Except.ok.injEq, and_iff_right h, eq_comm]
  · next h =>
    constructor
    · intro he
      exact absurd he Outcome.error_ne_ok
    · rintro ⟨hfits, -⟩
      exact absurd hfits h

/-- What a reader finds in the first spend of an asset. -/
structure EveSpend (p : CatPuzzle) (amount : Int) (s : Spend) : Prop where
  parent_eq : s.coin.parent = p.bootstrapCoinId
  puzzleHash_eq : s.coin.puzzleHash = p.puzzleHash
  amount_eq : (s.coin.amount : Int) = amount
  reveal_eq : Program.ofBytes s.puzzleReveal = .ok p.puzzle
  solution_eq : Program.ofBytes s.solution = .ok (p.eveSolution s.coin)

/-- **The first spend reveals the puzzle and the solution that it was made of.** -/
theorem EveSpend.of_eq_ok {s : Spend} (h : p.eveSpend amount = .ok s) : EveSpend p amount s := by
  obtain ⟨coin, hcoin, hpuzzle, hsolution, rfl⟩ := eveSpend_eq_ok_iff.1 h
  obtain ⟨hparent, hhash, hamount⟩ := Coin.of?_eq_ok_iff.1 hcoin
  exact ⟨hparent, hhash, hamount, Program.ofBytes_encode (Program.fits_iff.1 hpuzzle),
    Program.ofBytes_encode (Program.fits_iff.1 hsolution)⟩

/-- **A puzzle can be written exactly if everything it is made of can.** -/
theorem fits_puzzle_iff :
    (ofTemplates genesis cat coinId target amount memo).puzzle.fits = true ↔
      genesis.program.fits = true ∧ cat.program.fits = true ∧ coinId.length < sizeLimit ∧
        target.length < sizeLimit ∧ (Bytes.ofInt amount).length < sizeLimit ∧
        (Text.utf8 memo).length < sizeLimit := by
  have hhash : 32 < sizeLimit := by decide
  have hnumbers : (Program.ofInt createCoin).fits = true ∧
      (Program.ofInt runTailAmount).fits = true := by
    decide +kernel
  have hamount : (Program.ofInt amount).fits = true ↔ (Bytes.ofInt amount).length < sizeLimit :=
    Program.fits_atom
  simp [ofTemplates, innerPuzzle, hhash, hnumbers, hamount, cat.hash_eq_merkle]
  tauto

/-- **The solution can be written**: its atoms are digests, an amount and a few small numbers. -/
theorem fits_eveSolution {coin : Coin} (hid : p.bootstrapCoinId.length = 32)
    (hhash : p.puzzleHash.length = 32) (hinner : p.innerHash.length = 32)
    (hamount : (Bytes.ofInt coin.amount).length < sizeLimit) :
    (p.eveSolution coin).fits = true := by
  have hlimit : 32 < sizeLimit := by decide
  simp [eveSolution, Program.ofInt, hid, hhash, hinner, hlimit, hamount]

/-- **A coin of the asset has a first spend if the puzzle can be written.** -/
theorem exists_eveSpend (hid : coinId.length = 32) (hamount : 0 ≤ amount)
    (hfits : (ofTemplates genesis cat coinId target amount memo).puzzle.fits = true) :
    ∃ s, (ofTemplates genesis cat coinId target amount memo).eveSpend amount = .ok s := by
  have hhash : (ofTemplates genesis cat coinId target amount memo).puzzleHash.length = 32 :=
    Program.length_merkle _
  obtain ⟨coin, hcoin⟩ := Coin.exists_of? hid hhash hamount
  obtain ⟨-, -, -, -, hwidth, -⟩ := fits_puzzle_iff.1 hfits
  rw [← (Coin.of?_eq_ok_iff.1 hcoin).2.2] at hwidth
  exact ⟨_, eveSpend_eq_ok_iff.2 ⟨coin, hcoin, hfits,
    fits_eveSolution hid hhash (Program.length_merkle _) hwidth, rfl⟩⟩

/-! ## Small templates -/

/-- An atom of one byte as the template of a name. -/
def atomTemplate (name : String) (byte : UInt8) : Template :=
  .ofProgram name (.atom [byte]) (Nat.zero_le _)

/-- A registry of the templates that a mint uses, each of them a single byte. -/
def smallRegistry : Registry where
  templates := [atomTemplate Template.genesisByCoinId 8, atomTemplate Template.catV1 6,
    atomTemplate Template.catV2 7]
  names_nodup := by decide
  hashes_nodup := by
    have hcomputed : ([8, 6, 7].map fun b : UInt8 => (Program.atom [b]).computedHash).Nodup := by
      decide +kernel
    simp only [Program.computedHash_eq_merkle] at hcomputed
    exact hcomputed

/-- What is registered there has one byte. -/
theorem not_registers_small {p : Program} (h : ∀ b, p ≠ .atom [b]) :
    ¬ smallRegistry.Registers p := by
  rintro ⟨t, ht, rfl⟩
  simp only [smallRegistry, List.mem_cons, List.not_mem_nil, or_false] at ht
  rcases ht with rfl | rfl | rfl <;> exact h _ rfl

/-- The asset puzzle of a registered byte. -/
def smallPuzzle (name : String) (byte : UInt8) (coinId target : Bytes) (amount : Int)
    (memo : String) : CatPuzzle :=
  ofTemplates (atomTemplate Template.genesisByCoinId 8) (atomTemplate name byte) coinId target
    amount memo

theorem versions_mem_smallRegistry :
    atomTemplate Template.catV1 6 ∈ smallRegistry.templates ∧
      atomTemplate Template.catV2 7 ∈ smallRegistry.templates := by
  simp [smallRegistry]

/-- **An asset is made with either version**, and is the one written out above. -/
theorem make_small {name : String} {byte : UInt8}
    (h : atomTemplate name byte ∈ smallRegistry.templates) (hname : name ∈ templates) :
    make smallRegistry coinId target amount memo name =
      .ok (smallPuzzle name byte coinId target amount memo) := by
  refine make_eq_ok_iff.2 ⟨hname, _, _, Registry.get_eq_ok_iff.2 ⟨List.mem_cons_self, rfl⟩,
    Registry.get_eq_ok_iff.2 ⟨h, rfl⟩, rfl, ?_⟩
  have hdepth : (smallPuzzle name byte coinId target amount memo).puzzle.depth = 24 := rfl
  exact hdepth.le.trans (by decide)

end CatPuzzle

end CoinPuzzles
