import CoinPuzzles.Proofs.Block.Entries
import CoinPuzzles.Proofs.Cat.Commitment

/-!
# Proofs/Cat/Inspection — a minted coin as an inspector of blocks sees it

The first spend of an asset is written by one path and read by another.  What comes back names the
asset template, the coin and the asset id: `CatPuzzle.eveSpend_inspected`.  On the way,
`recognise_puzzle` takes the puzzle of an asset apart.
-/

namespace CoinPuzzles

open Program (depthLimit)

variable {r : Registry}

/-- The atom of a hash is written in digits after the mark of its size. -/
theorem Program.toHex_atom_hash {hash : Bytes} (h : hash.length = 32) :
    (Program.atom hash).toHex = "0xa0" ++ Bytes.toHex hash := by
  have hwritten : (Program.atom hash).encode = 0xA0 :: hash := by
    rcases encodeAtom_cases hash with ⟨x, rfl, -, -⟩ | hwritten
    · cases h
    · rw [encode, hwritten, h]
      rfl
  rw [toHex, hwritten, ← String.toList_inj, Bytes.toList_toMarkedHex, String.toList_append,
    Bytes.toHex, String.toList_ofList, String.toList_ofList]
  rfl

/-- A hash that is not registered is a leaf. -/
theorem recognise_hash {hash : Bytes} (hlength : hash.length = 32)
    (hnot : ¬ r.Registers (.atom hash))
    (hfree : Sha256.CollisionFree ((Program.atom hash).messages ++ r.messages)) :
    recognise r (.atom hash) = .raw ("0xa0" ++ hash.toHex) := by
  rw [recognise_shapeless ((Registry.nameOf?_eq_none_iff hfree).2 hnot) rfl,
    Program.toHex_atom_hash hlength]

/-- The fields of a document that say which coin was spent and what its puzzle is for. -/
theorem CoinInfo.toDocument_eq_ok {info : CoinInfo} {document : Value} {key : String}
    (hkey : info.node.keyParam? = some key) (h : info.toDocument = .ok document) :
    ∃ entries, document = .map entries ∧
      Value.find? "coin_name" entries = some (.text (Bytes.toMarkedHex info.coinId)) ∧
      Value.find? "key_param" entries = some (.text key) := by
  obtain ⟨amount, -, h⟩ := Outcome.bind_eq_ok_iff.1 h
  obtain rfl := Outcome.pure_eq_ok_iff.1 h
  rw [hkey]
  exact ⟨_, rfl, rfl, rfl⟩

namespace CatPuzzle

variable {coinId target : Bytes} {amount : Int} {memo template : String} {p : CatPuzzle}

/-- **The puzzle of an asset is recognised as its template**, with the asset id as a leaf. -/
theorem recognise_puzzle {genesis cat : Template} (hcat : cat ∈ r.templates)
    (hp : p = ofTemplates genesis cat coinId target amount memo)
    (hpuzzle : ¬ r.Registers p.puzzle) (htail : ¬ r.Registers (.atom p.tailHash))
    (hfree : Sha256.CollisionFree (p.puzzle.messages ++ r.messages)) :
    recognise r p.puzzle =
      .template cat.name
        [recognise r (.atom cat.hash), .raw ("0xa0" ++ p.tailHash.toHex), recognise r p.inner]
        true := by
  subst hp
  have hargument := (Program.subtree_curry_arg cat.program (List.mem_cons_of_mem _
    List.mem_cons_self)).collisionFree hfree
  have hleaf := recognise_hash length_tailHash htail hargument
  rw [recognise_curried ((Registry.nameOf?_eq_none_iff hfree).2 hpuzzle)
    (Program.uncurry?_curry _ _) (Registry.nameOf?_program hcat), ← hleaf]
  rfl

/-- An asset is identified by its second argument. -/
theorem keyParam?_eq {a c : Node} {hex : String} (h : template ∈ templates) :
    (Node.template template [a, .raw hex, c] true).keyParam? = some hex := by
  rcases List.mem_cons.1 h with rfl | h
  · rfl
  · obtain rfl := List.mem_singleton.1 h
    rfl

/-- **A minted coin is reported under its own id, its template and its asset id.**  The first spend
of an asset exists if its puzzle can be written.  Both of its programs can be read back, and the
entry of a block that they make is reported. -/
theorem eveSpend_inspected (h : make r coinId target amount memo template = .ok p)
    (hpuzzle : ¬ r.Registers p.puzzle) (htail : ¬ r.Registers (.atom p.tailHash))
    (hfree : Sha256.CollisionFree (p.puzzle.messages ++ r.messages)) :
    (coinId.length = 32 → 0 < amount →
      ((∃ s, p.eveSpend amount = .ok s) ↔ p.puzzle.fits = true)) ∧
    ∀ s, p.eveSpend amount = .ok s →
      ∃ puzzle solution info, Program.ofBytes s.puzzleReveal = .ok puzzle ∧
        Program.ofBytes s.solution = .ok solution ∧
        CoinInfo.ofEntry r
          (.ofList [.atom s.coin.parent, puzzle, .ofInt s.coin.amount, solution]) = .ok info ∧
        info.coinId = s.coin.id ∧
        (∃ a b c, info.node = .template template [a, b, c] true) ∧
        info.node.keyParam? = some ("0xa0" ++ p.tailHash.toHex) ∧
        ∀ document, info.toDocument = .ok document → ∃ entries, document = .map entries ∧
          Value.find? "coin_name" entries = some (.text (Bytes.toMarkedHex s.coin.id)) ∧
          Value.find? "key_param" entries = some (.text ("0xa0" ++ p.tailHash.toHex)) := by
  obtain ⟨hasset, genesis, cat, -, hcat, hp, hdepth⟩ := make_eq_ok_iff.1 h
  obtain ⟨hmem, rfl⟩ := Registry.get_eq_ok_iff.1 hcat
  refine ⟨fun hid hamount => ⟨?_, fun hfits => ?_⟩, fun s hs => ?_⟩
  · rintro ⟨s, hs⟩
    obtain ⟨_, -, hfits, -⟩ := eveSpend_eq_ok_iff.1 hs
    exact hfits
  · subst hp
    exact exists_eveSpend hid (by omega) hfits
  · have heve := EveSpend.of_eq_ok hs
    have hreport : CoinInfo.ofEntry r (.ofList [.atom s.coin.parent, p.puzzle,
        .ofInt s.coin.amount, p.eveSolution s.coin]) = _ := CoinInfo.ofEntry_ofList hdepth
    -- The reader hashes the puzzle that is revealed, and the coin holds the hash that was built.
    have hhash : p.puzzle.merkle = s.coin.puzzleHash := by
      rw [heve.puzzleHash_eq, hp]
      rfl
    rw [simplify, if_pos hdepth, recognise_puzzle hmem hp hpuzzle htail hfree, hhash] at hreport
    refine ⟨_, _, _, heve.reveal_eq, heve.solution_eq, hreport, rfl, ⟨_, _, _, rfl⟩,
      keyParam?_eq hasset, fun document => CoinInfo.toDocument_eq_ok (keyParam?_eq hasset)⟩

/-- The second version of the small asset, minted and inspected. -/
theorem eveSpend_inspected_sampleAsset :
    ∃ s puzzle solution info, (sampleAsset Template.catV2 7).eveSpend 1000 = .ok s ∧
      Program.ofBytes s.puzzleReveal = .ok puzzle ∧ Program.ofBytes s.solution = .ok solution ∧
      CoinInfo.ofEntry smallRegistry
        (.ofList [.atom s.coin.parent, puzzle, .ofInt s.coin.amount, solution]) = .ok info ∧
      info.coinId = s.coin.id ∧
      info.node.keyParam? = some ("0xa0" ++ (sampleAsset Template.catV2 7).tailHash.toHex) := by
  have hmake : make smallRegistry (List.replicate 32 5) (List.replicate 32 9) 1000 "mint"
      Template.catV2 = .ok (sampleAsset Template.catV2 7) :=
    make_small versions_mem_smallRegistry.2 (by decide)
  have hpuzzle : ¬ smallRegistry.Registers (sampleAsset Template.catV2 7).puzzle :=
    not_registers_small fun _ h => Program.noConfusion h
  have htail : ¬ smallRegistry.Registers (.atom (sampleAsset Template.catV2 7).tailHash) := by
    refine not_registers_small fun b h => ?_
    have hlength := congrArg List.length (Program.atom.inj h)
    rw [sampleAsset, smallPuzzle, length_tailHash, List.length_singleton] at hlength
    cases hlength
  have hfree : Sha256.CollisionFree
      ((sampleAsset Template.catV2 7).puzzle.messages ++ smallRegistry.messages) :=
    collisionFree_sampleAsset.mono (List.subset_append_right _ _)
  have hfits : (sampleAsset Template.catV2 7).puzzle.fits = true :=
    fits_puzzle_iff.2 (by decide +kernel)
  obtain ⟨hexists, hreport⟩ := eveSpend_inspected hmake hpuzzle htail hfree
  obtain ⟨s, hs⟩ := (hexists (by decide) (by decide)).2 hfits
  obtain ⟨puzzle, solution, info, hreveal, hsolution, hinfo, hid, -, hkey, -⟩ := hreport s hs
  exact ⟨s, puzzle, solution, info, hs, hreveal, hsolution, hinfo, hid, hkey⟩

end CatPuzzle

end CoinPuzzles
