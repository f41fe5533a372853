import CoinPuzzles.Proofs.Bytes.TwosComplement
import CoinPuzzles.Proofs.Cat.Construction

/-!
# Proofs/Cat/Commitment — what the hashes of an asset puzzle commit to

The asset id is the hash of the tail, which holds the bootstrap coin's id and nothing else that a
mint chooses.  The puzzle holds every choice, each in a form that can be read back, so its hash
tells two mints apart: `CatPuzzle.hashes_commit`.
-/

namespace CoinPuzzles.CatPuzzle

open Program (Subtree)

variable {r : Registry} {coinId coinId' target target' : Bytes} {amount amount' : Int}
  {memo memo' template template' : String} {p p' : CatPuzzle}

/-- The conditions of the inner puzzle can be read back. -/
theorem innerPuzzle_inj {tail tail' : Program} :
    innerPuzzle tail target amount memo = innerPuzzle tail' target' amount' memo' ↔
      tail = tail' ∧ target = target' ∧ amount = amount' ∧ memo = memo' := by
  constructor
  · intro h
    obtain ⟨-, h⟩ := Program.pair.inj h
    obtain ⟨hrun, hpay⟩ := List.cons_eq_cons.1 (Program.ofList_inj.1 h)
    have hrun := Program.ofList_inj.1 hrun
    have hpay := Program.ofList_inj.1 (List.cons.inj hpay).1
    simp only [List.cons.injEq, and_true, true_and] at hrun hpay
    obtain ⟨htarget, hamount, hmemos⟩ := hpay
    have hmemos := Program.ofList_inj.1 hmemos
    simp only [List.cons.injEq, Program.atom.injEq, and_true, Text.utf8_inj] at hmemos
    exact ⟨hrun, hmemos.1, Bytes.ofInt_inj.1 (Program.atom.inj hamount), hmemos.2⟩
  · rintro ⟨rfl, rfl, rfl, rfl⟩
    rfl

variable {genesis cat cat' : Template}

theorem tail_inj {module : Program} :
    module.curry [.atom coinId] = module.curry [.atom coinId'] ↔ coinId = coinId' := by
  simp only [Program.curry_inj, true_and, List.cons.injEq, Program.atom.injEq, and_true]

/-- **The puzzle can be read back**, down to the module of its template. -/
theorem puzzle_inj :
    (ofTemplates genesis cat coinId target amount memo).puzzle =
        (ofTemplates genesis cat' coinId' target' amount' memo').puzzle ↔
      cat.program = cat'.program ∧ coinId = coinId' ∧ target = target' ∧ amount = amount' ∧
        memo = memo' := by
  constructor
  · intro h
    obtain ⟨hmodule, hargs⟩ := Program.curry_inj.1 h
    simp only [List.cons.injEq, and_true] at hargs
    obtain ⟨htail, hchoices⟩ := innerPuzzle_inj.1 hargs.2.2
    exact ⟨hmodule, tail_inj.1 htail, hchoices⟩
  · rintro ⟨hmodule, rfl, rfl, rfl, rfl⟩
    have hhash : cat.hash = cat'.hash := by
      rw [cat.hash_eq_merkle, cat'.hash_eq_merkle, hmodule]
    simp only [ofTemplates, hmodule, hhash]

theorem tail_messages_subset :
    (ofTemplates genesis cat coinId target amount memo).tail.messages ⊆
      (ofTemplates genesis cat coinId target amount memo).puzzle.messages :=
  List.Subset.trans (subtree_tail _).messages_subset subtree_inner.messages_subset

/-- **The asset id commits to the bootstrap coin, and the puzzle hash to every choice of a mint.**
The tail and the inner puzzle are parts of the puzzle, so its messages are all that are hashed. -/
theorem hashes_commit
    (h : make r coinId target amount memo template = .ok p)
    (h' : make r coinId' target' amount' memo' template' = .ok p')
    (hfree : Sha256.CollisionFree (p.puzzle.messages ++ p'.puzzle.messages)) :
    (p.tailHash = p'.tailHash ↔ coinId = coinId') ∧
    (p.puzzleHash = p'.puzzleHash ↔
      template = template' ∧ coinId = coinId' ∧ target = target' ∧ amount = amount' ∧
        memo = memo') := by
  obtain ⟨-, genesis, cat, hgenesis, hcat, rfl, -⟩ := make_eq_ok_iff.1 h
  obtain ⟨-, genesis', cat', hgenesis', hcat', rfl, -⟩ := make_eq_ok_iff.1 h'
  obtain rfl := Except.ok.inj (hgenesis.symm.trans hgenesis')
  obtain ⟨hmem, rfl⟩ := Registry.get_eq_ok_iff.1 hcat
  obtain ⟨hmem', rfl⟩ := Registry.get_eq_ok_iff.1 hcat'
  refine ⟨⟨fun htail => ?_, ?_⟩, ⟨fun hpuzzle => ?_, ?_⟩⟩
  · have htails := hfree.append_mono tail_messages_subset tail_messages_subset
    exact tail_inj.1 (Program.eq_of_merkle_eq htails htail)
  · rintro rfl
    rfl
  · obtain ⟨hmodule, hchoices⟩ := puzzle_inj.1 (Program.eq_of_merkle_eq hfree hpuzzle)
    -- One program is registered under one name, which tells the versions of the template apart.
    exact ⟨congrArg Template.name (Registry.eq_of_program_eq hmem hmem' hmodule), hchoices⟩
  · rintro ⟨hname, rfl, rfl, rfl, rfl⟩
    obtain rfl : cat = cat' := by
      rw [hname, hcat'] at hcat
      exact (Except.ok.inj hcat).symm
    rfl

/-! ## Two versions of a small asset -/

/-- The hashes that are bound into a puzzle, computed. -/
theorem puzzle_eq_computed :
    (ofTemplates genesis cat coinId target amount memo).puzzle =
      cat.program.curry [.atom cat.program.computedHash,
        .atom (genesis.program.curry [.atom coinId]).computedHash,
        innerPuzzle (genesis.program.curry [.atom coinId]) target amount memo] := by
  rw [Program.computedHash_eq_merkle, Program.computedHash_eq_merkle, ← cat.hash_eq_merkle]
  rfl

/-- A small asset under a version of the template. -/
def sampleAsset (name : String) (byte : UInt8) : CatPuzzle :=
  smallPuzzle name byte (List.replicate 32 5) (List.replicate 32 9) 1000 "mint"

/-- The messages of both versions and of the registry, computed. -/
theorem collisionFree_sampleAsset :
    Sha256.CollisionFree ((sampleAsset Template.catV1 6).puzzle.messages ++
      ((sampleAsset Template.catV2 7).puzzle.messages ++ smallRegistry.messages)) := by
  rw [sampleAsset, sampleAsset, smallPuzzle, smallPuzzle, puzzle_eq_computed, puzzle_eq_computed]
  refine Program.collisionFree_of_nodup (_ :: _ :: smallRegistry.templates.map (·.program)) ?_
  decide +kernel

/-- Two versions of one mint share their asset id and have different puzzle hashes. -/
theorem hashes_commit_versions :
    make smallRegistry (List.replicate 32 5) (List.replicate 32 9) 1000 "mint" Template.catV1 =
      .ok (sampleAsset Template.catV1 6) ∧
    make smallRegistry (List.replicate 32 5) (List.replicate 32 9) 1000 "mint" Template.catV2 =
      .ok (sampleAsset Template.catV2 7) ∧
    Sha256.CollisionFree ((sampleAsset Template.catV1 6).puzzle.messages ++
      (sampleAsset Template.catV2 7).puzzle.messages) ∧
    (sampleAsset Template.catV1 6).tailHash = (sampleAsset Template.catV2 7).tailHash ∧
    (sampleAsset Template.catV1 6).puzzleHash ≠ (sampleAsset Template.catV2 7).puzzleHash := by
  have hv1 : make smallRegistry (List.replicate 32 5) (List.replicate 32 9) 1000 "mint"
      Template.catV1 = .ok (sampleAsset Template.catV1 6) :=
    make_small versions_mem_smallRegistry.1 (by decide)
  have hv2 : make smallRegistry (List.replicate 32 5) (List.replicate 32 9) 1000 "mint"
      Template.catV2 = .ok (sampleAsset Template.catV2 7) :=
    make_small versions_mem_smallRegistry.2 (by decide)
  have hfree := collisionFree_sampleAsset.append_mono (List.Subset.refl _)
    (List.subset_append_left _ _)
  obtain ⟨htail, hpuzzle⟩ := hashes_commit hv1 hv2 hfree
  refine ⟨hv1, hv2, hfree, htail.2 rfl, fun h => ?_⟩
  exact absurd (hpuzzle.1 h).1 (by decide)

end CoinPuzzles.CatPuzzle
