import CoinPuzzles.Cat.Mint
import CoinPuzzles.Proofs.Cat.Construction
import CoinPuzzles.Proofs.Funding.Selection
import CoinPuzzles.Proofs.Signing.Bundles

/-!
# Proofs/Cat/Linkage — one coin bootstraps an asset, pays for it and is named by it

A mint plans twice: for a placeholder, to find the coin that bootstraps the asset, and for the
asset puzzle, which holds the id of that coin.  Selection does not look at puzzle hashes, so both
plans take the same coins.  `mint_linked` follows the primary coin through the tail, the first coin
of the asset, its solution and the asset id.
-/

namespace CoinPuzzles

open MintOrder (placeholder)

variable {r : Registry} {o : MintOrder} {d : MintDraft}

/-! ## Drafts -/

/-- **The plan of a mint does not depend on whom it pays**, but for its target. -/
theorem MintOrder.planFor_eq_ok {bootstrap : Plan} (puzzleHash : Bytes)
    (h : o.planFor placeholder = .ok bootstrap) :
    o.planFor puzzleHash = .ok { bootstrap with targets := [⟨puzzleHash, o.amount⟩] } := by
  have hretarget : o.planFor puzzleHash = (o.planFor placeholder).map _ := Plan.make_retarget rfl
  rw [hretarget, h]
  rfl

/-- **A draft is a plan, and the asset that the plan's primary coin bootstraps.** -/
theorem MintOrder.draft_eq_ok_iff :
    o.draft r = .ok d ↔
      0 < o.amount ∧ ∃ bootstrap, o.planFor placeholder = .ok bootstrap ∧
        d.plan = { bootstrap with targets := [⟨d.cat.puzzleHash, o.amount⟩] } ∧
        CatPuzzle.make r d.plan.primary.id o.target o.amount (Memo.sanitize o.memo) o.template =
          .ok d.cat := by
  rw [draft, Outcome.guard_eq_ok_iff, Int.not_le]
  simp only [Outcome.bind_eq_ok_iff, Outcome.mapError_eq_ok_iff, Outcome.pure_eq_ok_iff]
  refine and_congr_right fun _ => exists_congr fun bootstrap => and_congr_right fun hbootstrap => ?_
  constructor
  · rintro ⟨cat, hcat, plan, hplan, rfl⟩
    rw [planFor_eq_ok _ hbootstrap, Except.ok.injEq] at hplan
    obtain rfl := hplan
    exact ⟨rfl, hcat⟩
  · rintro ⟨hplan, hcat⟩
    refine ⟨d.cat, ?_, d.plan, ?_, rfl⟩
    · rw [hplan] at hcat
      exact hcat
    · rw [planFor_eq_ok _ hbootstrap, hplan]

section

variable {S : Scheme} {context : SigningContext} {key : S.Key} {internal : Bundle}
  {builder : Plan → Bundle} {runner : Runner} {genesis : Bytes} {minted : Minted}

/-- **A draft is completed by three steps**: the first spend of the asset, its signature, and the
merger with the builder's bundle. -/
theorem MintDraft.complete_eq_ok_iff {amount : Int} {earlier calls : List Call} :
    (d.complete S context amount key internal runner genesis).runFrom earlier =
        (.ok minted, calls) ↔
      ∃ eve external, d.cat.eveSpend amount = .ok eve ∧
        (signSpends S context [key] genesis runner [eve]).runFrom earlier = (.ok external, calls) ∧
        combine S context ([internal, external].map some) = .ok minted.bundle ∧
        minted.assetId = d.cat.tailHash := by
  simp only [complete, Session.runFrom_bind_eq_ok_iff, Session.runFrom_ofExcept_eq_ok_iff,
    Session.runFrom_mapError_eq_ok_iff, Session.runFrom_pure_eq_ok_iff, Outcome.mapError_eq_ok_iff]
  constructor
  · rintro ⟨eve, _, ⟨heve, rfl⟩, external, _, hexternal, bundle, _, ⟨hbundle, rfl⟩, rfl, rfl⟩
    exact ⟨eve, external, heve, hexternal, hbundle, rfl⟩
  · rintro ⟨eve, external, heve, hexternal, hbundle, hid⟩
    refine ⟨eve, _, ⟨heve, rfl⟩, external, _, hexternal, _, _, ⟨hbundle, rfl⟩, ?_, rfl⟩
    rw [← hid]

theorem mint_of_draft (h : o.draft r = .ok d) :
    mint S context o key builder r runner genesis =
      ⟨[d.plan],
        (d.complete S context o.amount key (builder d.plan) runner genesis).outcome.2,
        (d.complete S context o.amount key (builder d.plan) runner genesis).outcome.1⟩ := by
  rw [mint, h]

/-- The builder is handed the plan of the draft, if there is a draft. -/
theorem mem_plans_iff {plan : Plan} :
    plan ∈ (mint S context o key builder r runner genesis).plans ↔
      ∃ d, o.draft r = .ok d ∧ plan = d.plan := by
  cases hdraft : o.draft r with
  | error e => simp [mint, hdraft]
  | ok d => simp [mint_of_draft hdraft]

end

/-- **What a mint returns under the ledger's scheme**: the builder's spends, unless its bundle is
unsigned, and then the first spend of the asset. -/
theorem spends_of_mint {context : SigningContext} {key : bls.Key} {builder : Plan → Bundle}
    {runner : Runner} {genesis : Bytes} {minted : Minted}
    (h : (mint bls context o key builder r runner genesis).outcome = .ok minted) :
    ∃ d eve, o.draft r = .ok d ∧
      (mint bls context o key builder r runner genesis).plans = [d.plan] ∧
      d.cat.eveSpend o.amount = .ok eve ∧
      minted.bundle.spends = (builder d.plan).kept ++ [eve] ∧
      minted.assetId = d.cat.tailHash := by
  cases hdraft : o.draft r with
  | error e => simp [mint, hdraft] at h
  | ok d =>
    rw [mint_of_draft hdraft] at h ⊢
    obtain ⟨eve, external, heve, hexternal, hcombine, hid⟩ :=
      MintDraft.complete_eq_ok_iff.1 (Prod.ext h rfl)
    refine ⟨d, eve, rfl, rfl, heve, ?_, hid⟩
    obtain ⟨signatures, rfl⟩ := signSpends_eq_ok hexternal
    obtain ⟨-, _, -, hbundle⟩ := combine_eq_ok_iff.1 hcombine
    have hsigned : Bundle.kept ⟨bls.signatureBytes (bls.aggregate signatures), [eve]⟩ = [eve] :=
      Bundle.kept_of_ne_nil (bls_signatureBytes_ne_nil _)
    rw [hbundle, flatMap_signedBundles, List.flatMap_cons, List.flatMap_singleton, hsigned]

/-! ## One coin throughout -/

/-- The first spend of an asset fits the plan that pays for it, and names the plan's primary coin
wherever it says where the asset comes from. -/
structure MintOrder.Linked (o : MintOrder) (plan : Plan) (cat : CatPuzzle) (eve : Spend) :
    Prop where
  targets_eq : plan.targets = [⟨eve.coin.puzzleHash, o.amount⟩]
  parent_eq : eve.coin.parent = plan.primary.id
  amount_eq : (eve.coin.amount : Int) = o.amount
  reveal_eq : ∃ puzzle, Program.ofBytes eve.puzzleReveal = .ok puzzle ∧
    puzzle.treeHash = .ok eve.coin.puzzleHash
  /-- The solution holds the coin's id, and the origin of the coin twice: as it is, and under the
  inner puzzle. -/
  solution_eq : ∃ solution, Program.ofBytes eve.solution = .ok solution ∧
    solution.elements[2]? = some (.atom eve.coin.id) ∧
    solution.elements[3]? = some (.ofList
      [.atom plan.primary.id, .atom eve.coin.puzzleHash, .ofInt eve.coin.amount]) ∧
    solution.elements[4]? = some (.ofList
      [.atom plan.primary.id, .atom cat.innerHash, .ofInt eve.coin.amount])

/-- **The first spend of a drafted asset is linked to the plan of the draft.** -/
theorem MintOrder.Linked.of_draft {eve : Spend} (h : o.draft r = .ok d)
    (heve : d.cat.eveSpend o.amount = .ok eve) : o.Linked d.plan d.cat eve := by
  obtain ⟨-, bootstrap, -, hplan, hmake⟩ := draft_eq_ok_iff.1 h
  have hspend := CatPuzzle.EveSpend.of_eq_ok heve
  have hid := CatPuzzle.bootstrapCoinId_of_make hmake
  refine ⟨?_, hspend.parent_eq.trans hid, hspend.amount_eq, ⟨_, hspend.reveal_eq, ?_⟩,
    ⟨_, hspend.solution_eq, ?_⟩⟩
  · rw [hspend.puzzleHash_eq, hplan]
  · rw [hspend.puzzleHash_eq]
    exact (CatPuzzle.treeHash_of_make hmake).2.2
  · rw [CatPuzzle.eveSolution, Program.elements_ofList, hid, hspend.puzzleHash_eq]
    exact ⟨rfl, rfl, rfl⟩

/-- **A mint is linked through one coin.**  Whenever the builder is asked, its plan has the coins
and the change of the plan for the placeholder, and pays the amount to the first coin of the asset
whose tail binds the plan's primary coin; whatever spends that coin is linked to the plan.  What is
returned ends in such a spend, and is filed under the hash of the tail. -/
theorem mint_linked (r : Registry) (o : MintOrder) (context : SigningContext) (key : bls.Key)
    (builder : Plan → Bundle) (runner : Runner) (genesis : Bytes) :
    (∀ plan ∈ (mint bls context o key builder r runner genesis).plans,
      ∃ bootstrap cat tail coin, o.planFor placeholder = .ok bootstrap ∧
        plan.coins = bootstrap.coins ∧ plan.change = bootstrap.change ∧
        CatPuzzle.make r plan.primary.id o.target o.amount (Memo.sanitize o.memo) o.template =
          .ok cat ∧
        r.get Template.genesisByCoinId = .ok tail ∧
        cat.tail = tail.program.curry [.atom plan.primary.id] ∧
        Coin.of? plan.primary.id cat.puzzleHash o.amount = .ok coin ∧
        plan.targets = [⟨coin.puzzleHash, o.amount⟩] ∧
        ∀ eve, cat.eveSpend o.amount = .ok eve → eve.coin = coin ∧ o.Linked plan cat eve) ∧
    ∀ minted, (mint bls context o key builder r runner genesis).outcome = .ok minted →
      ∃ plan cat tail eve, (mint bls context o key builder r runner genesis).plans = [plan] ∧
        CatPuzzle.make r plan.primary.id o.target o.amount (Memo.sanitize o.memo) o.template =
          .ok cat ∧
        r.get Template.genesisByCoinId = .ok tail ∧
        (tail.program.curry [.atom plan.primary.id]).treeHash = .ok minted.assetId ∧
        cat.eveSpend o.amount = .ok eve ∧ o.Linked plan cat eve ∧
        minted.bundle.spends.getLast? = some eve := by
  refine ⟨fun plan hplan => ?_, fun minted h => ?_⟩
  · obtain ⟨d, hdraft, rfl⟩ := mem_plans_iff.1 hplan
    obtain ⟨hamount, bootstrap, hbootstrap, hplan, hmake⟩ := MintOrder.draft_eq_ok_iff.1 hdraft
    obtain ⟨tail, htail, heq⟩ := CatPuzzle.exists_tail_of_make hmake
    have hhash := CatPuzzle.length_puzzleHash_of_make hmake
    obtain ⟨coin, hcoin⟩ := Coin.exists_of? d.plan.primary.length_id hhash hamount.le
    have hpaid : coin.puzzleHash = d.cat.puzzleHash := (Coin.of?_eq_ok_iff.1 hcoin).2.1
    refine ⟨bootstrap, d.cat, tail, coin, hbootstrap, ?_, ?_, hmake, htail, heq, hcoin, ?_,
      fun eve heve => ⟨?_, .of_draft hdraft heve⟩⟩
    · rw [hplan]
      rfl
    · rw [hplan]
    · rw [hplan, hpaid]
    -- The coin that is spent and the coin that is paid for are made of one triple.
    · obtain ⟨spent, hspent, -, -, rfl⟩ := CatPuzzle.eveSpend_eq_ok_iff.1 heve
      rw [CatPuzzle.bootstrapCoinId_of_make hmake, hcoin] at hspent
      exact (Except.ok.inj hspent).symm
  · obtain ⟨d, eve, hdraft, hplans, heve, hspends, hid⟩ := spends_of_mint h
    obtain ⟨-, _, -, -, hmake⟩ := MintOrder.draft_eq_ok_iff.1 hdraft
    obtain ⟨tail, htail, heq⟩ := CatPuzzle.exists_tail_of_make hmake
    refine ⟨d.plan, d.cat, tail, eve, hplans, hmake, htail, ?_, heve, .of_draft hdraft heve, ?_⟩
    · rw [← heq, hid]
      exact (CatPuzzle.treeHash_of_make hmake).1
    · rw [hspends, List.getLast?_append, List.getLast?_singleton]
      rfl

/-! ## A small mint -/

/-- A coin that pays for a small mint. -/
def smallCoin : Coin where
  parent := List.replicate 32 0xAA
  puzzleHash := List.replicate 32 0xBB
  amount := 1000
  length_parent := List.length_replicate
  length_puzzleHash := List.length_replicate

/-- An order that the coin covers without change. -/
def smallOrder : MintOrder where
  target := List.replicate 32 0x11
  changePuzzleHash := List.replicate 32 0x22
  amount := 1000
  fee := 0
  memo := "hello"
  coins := [smallCoin]
  template := Template.catV2

/-- The draft of the order. -/
def smallDraft : MintDraft :=
  let cat := CatPuzzle.smallPuzzle Template.catV2 7 smallCoin.id smallOrder.target 1000 "hello"
  ⟨cat, ⟨smallCoin, [], [⟨cat.puzzleHash, 1000⟩], smallOrder.changePuzzleHash, 0, 0⟩⟩

theorem draft_small : smallOrder.draft CatPuzzle.smallRegistry = .ok smallDraft := by
  have hbootstrap : smallOrder.planFor placeholder =
      .ok { smallDraft.plan with targets := [⟨placeholder, 1000⟩] } := by
    simp [MintOrder.planFor, Plan.make, smallOrder, cover, Plan.needed, Coin.total, smallDraft,
      smallCoin]
  exact MintOrder.draft_eq_ok_iff.2 ⟨by decide, _, hbootstrap, rfl,
    CatPuzzle.make_small CatPuzzle.versions_mem_smallRegistry.2 (by decide)⟩

theorem exists_eveSpend_small : ∃ eve, smallDraft.cat.eveSpend smallOrder.amount = .ok eve := by
  refine CatPuzzle.exists_eveSpend smallCoin.length_id (by decide) (CatPuzzle.fits_puzzle_iff.2 ?_)
  rw [smallCoin.length_id]
  decide +kernel

/-- The order, minted by a builder and with a runner that asks for no signature. -/
def smallMint (builder : Plan → Bundle) : MintAttempt :=
  mint bls .ready smallOrder (show bls.Key from (1 : Nat)) builder CatPuzzle.smallRegistry .silent
    (List.replicate 32 0xAB)

theorem smallMint_outcome (builder : Plan → Bundle) {eve : Spend}
    (heve : smallDraft.cat.eveSpend smallOrder.amount = .ok eve)
    (h : (builder smallDraft.plan).signature = [] ∨
      (builder smallDraft.plan).signature = Curve.infinityBytes 96) :
    (smallMint builder).outcome =
      .ok ⟨⟨Curve.infinityBytes 96, (builder smallDraft.plan).kept ++ [eve]⟩,
        smallDraft.cat.tailHash⟩ := by
  rw [smallMint, mint_of_draft draft_small]
  exact congrArg Prod.fst (MintDraft.complete_eq_ok_iff.2
    ⟨eve, _, heve, signSpends_silent, combine_infinity h, rfl⟩)

/-- The builder of bundles that are signed by infinity. -/
def signingBuilder (plan : Plan) : Bundle :=
  ⟨Curve.infinityBytes 96, plan.coins.map fun c => ⟨c, [0xFF, 0x01, 0x80], [0x80]⟩⟩

/-- The small mint reaches the builder and succeeds. -/
theorem mint_linked_small :
    ∃ plan bootstrap minted tail eve, (smallMint signingBuilder).plans = [plan] ∧
      smallOrder.planFor placeholder = .ok bootstrap ∧ plan.coins = bootstrap.coins ∧
      (smallMint signingBuilder).outcome = .ok minted ∧
      plan.targets = [⟨eve.coin.puzzleHash, 1000⟩] ∧ eve.coin.parent = plan.primary.id ∧
      minted.bundle.spends.getLast? = some eve ∧
      CatPuzzle.smallRegistry.get Template.genesisByCoinId = .ok tail ∧
      (tail.program.curry [.atom plan.primary.id]).treeHash = .ok minted.assetId := by
  obtain ⟨eve, heve⟩ := exists_eveSpend_small
  have houtcome := smallMint_outcome signingBuilder heve (.inr rfl)
  obtain ⟨hreached, hreturned⟩ := mint_linked CatPuzzle.smallRegistry smallOrder .ready
    (show bls.Key from (1 : Nat)) signingBuilder .silent (List.replicate 32 0xAB)
  obtain ⟨plan, cat, tail, eve, hplans, -, htail, hid, -, hlinked, hlast⟩ := hreturned _ houtcome
  obtain ⟨bootstrap, -, -, -, hbootstrap, hcoins, -⟩ :=
    hreached plan (hplans ▸ List.mem_singleton_self plan)
  exact ⟨plan, bootstrap, _, tail, eve, hplans, hbootstrap, hcoins, houtcome, hlinked.targets_eq,
    hlinked.parent_eq, hlast, htail, hid⟩

end CoinPuzzles
