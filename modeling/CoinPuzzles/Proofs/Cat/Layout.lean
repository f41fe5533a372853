import CoinPuzzles.Proofs.Bytes.TwosComplement
import CoinPuzzles.Proofs.Cat.Construction

/-!
# Proofs/Cat/Layout — what is read back from the first spend of an asset

A spend is handed on as two byte strings.  What a reader finds in them is said here entry by entry
and without the functions that built them: the arguments that are bound into the asset template
(`Reveals`), the two conditions that the inner puzzle quotes (`Pays`) and the solution that goes
with them (`Proves`).  Numbers are what their atoms are read as, whatever their width and sign, and
every list ends where it is said to.  Main statement: `eveSpend_layout`.
-/

namespace CoinPuzzles.CatPuzzle

variable {r : Registry} {coinId target puzzleHash : Bytes} {amount : Int} {memo template : String}
variable {p : CatPuzzle} {genesis cat : Template} {tail : Program} {rest : List Program}

/-! ## The conditions -/

/-- The condition creates a coin and carries nothing but the rest. -/
def CreatesCoin (c : Program) (puzzleHash : Bytes) (amount : Int) (rest : List Program) : Prop :=
  ∃ op number, c = .ofList (.atom op :: .atom puzzleHash :: .atom number :: rest) ∧
    op.toInt = createCoin ∧ number.toInt = amount

theorem createsCoin_ofInt :
    CreatesCoin (.ofList (.ofInt createCoin :: .atom puzzleHash :: .ofInt amount :: rest))
      puzzleHash amount rest :=
  ⟨_, _, rfl, Bytes.toInt_ofInt _, Bytes.toInt_ofInt _⟩

/-- The inner puzzle quotes two conditions: one runs the tail, and one pays the target and tells it
the memo. -/
def Pays (inner tail : Program) (target : Bytes) (amount : Int) (memo : String) : Prop :=
  ∃ run pay, inner = .pair (.atom [1]) (.ofList [run, pay]) ∧
    CreatesCoin run [] runTailAmount [tail, .nil] ∧
    CreatesCoin pay target amount [.ofList [.atom target, .atom (Text.utf8 memo)]]

theorem pays_innerPuzzle : Pays (innerPuzzle tail target amount memo) tail target amount memo :=
  ⟨_, _, rfl, createsCoin_ofInt, createsCoin_ofInt⟩

/-! ## The puzzle and the solution -/

/-- The program binds three arguments into the template: its own hash, the hash of the tail and the
inner puzzle. -/
def Reveals (reveal : Program) (cat : Template) (tail inner : Program) : Prop :=
  ∃ moduleHash tailHash, cat.program.treeHash = .ok moduleHash ∧ tail.treeHash = .ok tailHash ∧
    reveal.uncurry? = some (cat.program, [.atom moduleHash, .atom tailHash, inner])

theorem reveals_of_make (h : make r coinId target amount memo template = .ok p) :
    ∃ cat, r.get template = .ok cat ∧ Reveals p.puzzle cat p.tail p.inner := by
  have htail := (treeHash_of_make h).1
  obtain ⟨-, genesis, cat, -, hcat, rfl, -⟩ := make_eq_ok_iff.1 h
  exact ⟨cat, hcat, cat.hash, _, cat.hash_eq, htail, Program.uncurry?_curry _ _⟩

theorem pays_of_make (h : make r coinId target amount memo template = .ok p) :
    Pays p.inner p.tail target amount memo := by
  obtain ⟨-, genesis, cat, -, -, rfl, -⟩ := make_eq_ok_iff.1 h
  exact pays_innerPuzzle

/-- The program is a list of a parent, a puzzle hash and an amount. -/
def IsTriple (t : Program) (parent puzzleHash : Bytes) (amount : Int) : Prop :=
  ∃ number, t = .ofList [.atom parent, .atom puzzleHash, .atom number] ∧ number.toInt = amount

/-- The solution has seven entries.  It names the coin and holds two triples, of the coin under the
puzzle that is revealed and of the coin under the inner puzzle. -/
def Proves (solution reveal inner : Program) (coin : Coin) : Prop :=
  ∃ outerTriple innerTriple innerHash,
    solution = .ofList [.nil, .nil, .atom coin.id, outerTriple, innerTriple, .nil, .nil] ∧
    reveal.treeHash = .ok coin.puzzleHash ∧ inner.treeHash = .ok innerHash ∧
    IsTriple outerTriple coin.parent coin.puzzleHash coin.amount ∧
    IsTriple innerTriple coin.parent innerHash coin.amount

theorem EveSpend.proves {s : Spend} (h : make r coinId target amount memo template = .ok p)
    (heve : EveSpend p amount s) : Proves (p.eveSolution s.coin) p.puzzle p.inner s.coin := by
  obtain ⟨-, hinner, hpuzzle⟩ := treeHash_of_make h
  rw [← heve.puzzleHash_eq] at hpuzzle
  refine ⟨_, _, p.innerHash, rfl, hpuzzle, hinner, ⟨_, ?_, Bytes.toInt_ofInt _⟩,
    ⟨_, ?_, Bytes.toInt_ofInt _⟩⟩
  · rw [heve.parent_eq, heve.puzzleHash_eq]
    rfl
  · rw [heve.parent_eq]
    rfl

/-! ## The bytes -/

/-- **The first spend of an asset is read back from its bytes**, down to each number and each end of
a list. -/
theorem eveSpend_layout {s : Spend} (h : make r coinId target amount memo template = .ok p)
    (hs : p.eveSpend amount = .ok s) :
    ∃ genesis cat reveal solution tail inner,
      r.get Template.genesisByCoinId = .ok genesis ∧ r.get template = .ok cat ∧
      Program.ofBytes s.puzzleReveal = .ok reveal ∧ Program.ofBytes s.solution = .ok solution ∧
      s.coin.parent = coinId ∧ (s.coin.amount : Int) = amount ∧
      Reveals reveal cat tail inner ∧ tail.uncurry? = some (genesis.program, [.atom coinId]) ∧
      Pays inner tail target amount memo ∧ Proves solution reveal inner s.coin := by
  have heve := EveSpend.of_eq_ok hs
  obtain ⟨cat, hcat, hreveals⟩ := reveals_of_make h
  obtain ⟨genesis, hgenesis, htail⟩ := exists_tail_of_make h
  have hid := heve.parent_eq.trans (bootstrapCoinId_of_make h)
  refine ⟨genesis, cat, p.puzzle, p.eveSolution s.coin, p.tail, p.inner, hgenesis, hcat,
    heve.reveal_eq, heve.solution_eq, hid, heve.amount_eq, hreveals, ?_, pays_of_make h,
    heve.proves h⟩
  rw [htail, Program.uncurry?_curry]

/-- A small asset.  Its amount needs a byte for its sign, and its memo is no token and no ASCII. -/
def accentedAsset : CatPuzzle :=
  smallPuzzle Template.catV2 7 (List.replicate 32 5) (List.replicate 32 9) 128 "(é 7)"

/-- The first spend of the accented asset, read back. -/
theorem eveSpend_layout_accentedAsset :
    make smallRegistry (List.replicate 32 5) (List.replicate 32 9) 128 "(é 7)" Template.catV2 =
        .ok accentedAsset ∧
      ∃ s, accentedAsset.eveSpend 128 = .ok s ∧ ∃ cat reveal solution tail inner,
        smallRegistry.get Template.catV2 = .ok cat ∧
        Program.ofBytes s.puzzleReveal = .ok reveal ∧ Program.ofBytes s.solution = .ok solution ∧
        Reveals reveal cat tail inner ∧ Pays inner tail (List.replicate 32 9) 128 "(é 7)" ∧
        Proves solution reveal inner s.coin := by
  have hmake : make smallRegistry (List.replicate 32 5) (List.replicate 32 9) 128 "(é 7)"
      Template.catV2 = .ok accentedAsset := make_small versions_mem_smallRegistry.2 (by decide)
  have hfits : accentedAsset.puzzle.fits = true := fits_puzzle_iff.2 (by decide +kernel)
  have hexists : ∃ s, accentedAsset.eveSpend 128 = .ok s :=
    exists_eveSpend List.length_replicate (by decide) hfits
  obtain ⟨s, hs⟩ := hexists
  obtain ⟨_, cat, reveal, solution, tail, inner, -, hcat, hreveal, hsolution, -, -, hreveals, -,
    hpays, hproves⟩ := eveSpend_layout hmake hs
  exact ⟨hmake, s, hs, cat, reveal, solution, tail, inner, hcat, hreveal, hsolution, hreveals,
    hpays, hproves⟩

end CoinPuzzles.CatPuzzle
