import CoinPuzzles.Proofs.Cat.Linkage
import CoinPuzzles.Proofs.Digest.Evaluation

/-!
# Proofs/Cat/Merging — what becomes of the builder's spends

The bundle of a mint is a merger, and a merger leaves unsigned bundles out.  So a mint returns the
builder's spends before its own exactly if the builder signs what it spends: `mint_keeps_spends`.
If it does not, the mint still succeeds, and the coin that bootstraps the asset is left unspent.
-/

namespace CoinPuzzles

variable {r : Registry} {o : MintOrder} {context : SigningContext} {key : bls.Key}
  {builder : Plan → Bundle} {runner : Runner} {genesis : Bytes} {minted : Minted}

theorem Bundle.kept_append_eq_iff {b : Bundle} {spends : List Spend} :
    b.kept ++ spends = b.spends ++ spends ↔ b.signature ≠ [] ∨ b.spends = [] := by
  rw [List.append_cancel_right_eq, kept]
  split
  · next h => simp [h, eq_comm]
  · next h => simp [h]

/-- **The builder's spends are returned exactly if they are signed.**  A mint that returns has asked
the builder for one plan.  The builder's spends come first, in order, and then the first spend of
the asset, if there is a signature on them or nothing to sign; else only the latter is left.  With a
signature, the plan's primary coin is spent if the builder spends it. -/
theorem mint_keeps_spends
    (h : (mint bls context o key builder r runner genesis).outcome = .ok minted) :
    ∃ plan cat eve, (mint bls context o key builder r runner genesis).plans = [plan] ∧
      CatPuzzle.make r plan.primary.id o.target o.amount (Memo.sanitize o.memo) o.template =
        .ok cat ∧
      cat.eveSpend o.amount = .ok eve ∧
      (minted.bundle.spends = (builder plan).spends ++ [eve] ↔
        (builder plan).signature ≠ [] ∨ (builder plan).spends = []) ∧
      ((builder plan).signature = [] → minted.bundle.spends = [eve]) ∧
      ((builder plan).signature ≠ [] →
        ∀ s ∈ (builder plan).spends, s.coin = plan.primary →
          ∃ t ∈ minted.bundle.spends, t.coin = plan.primary) := by
  obtain ⟨d, eve, hdraft, hplans, heve, hspends, -⟩ := spends_of_mint h
  obtain ⟨-, _, -, -, hmake⟩ := MintOrder.draft_eq_ok_iff.1 hdraft
  refine ⟨d.plan, d.cat, eve, hplans, hmake, heve, ?_, fun hunsigned => ?_,
    fun hsigned s hs hcoin => ⟨s, ?_, hcoin⟩⟩
  · rw [hspends, Bundle.kept_append_eq_iff]
  · rw [hspends, Bundle.kept, if_pos hunsigned, List.nil_append]
  · rw [hspends, Bundle.kept_of_ne_nil hsigned]
    exact List.mem_append_left _ hs

/-- The small mint with a builder that signs. -/
theorem mint_keeps_spends_small :
    ∃ minted plan eve, (smallMint signingBuilder).outcome = .ok minted ∧
      (smallMint signingBuilder).plans = [plan] ∧
      minted.bundle.spends = (signingBuilder plan).spends ++ [eve] := by
  obtain ⟨eve, heve⟩ := exists_eveSpend_small
  have houtcome := smallMint_outcome signingBuilder heve (.inr rfl)
  obtain ⟨plan, _, eve, hplans, -, -, hspends, -⟩ := mint_keeps_spends houtcome
  exact ⟨_, plan, eve, houtcome, hplans, hspends.2 (.inl (List.cons_ne_nil _ _))⟩

/-- The builder of bundles that are not signed. -/
def unsignedBuilder (plan : Plan) : Bundle := { signingBuilder plan with signature := [] }

/-- **A builder that does not sign leaves the bootstrap coin unspent.**  It spends the primary coin
of its plan, the mint succeeds, and what is returned spends the first coin of the asset alone. -/
theorem bootstrap_unspent_small :
    ∃ minted plan eve, (smallMint unsignedBuilder).outcome = .ok minted ∧
      (smallMint unsignedBuilder).plans = [plan] ∧
      (∃ s ∈ (unsignedBuilder plan).spends, s.coin = plan.primary) ∧
      minted.bundle.spends = [eve] ∧
      minted.bundle.spends ≠ (unsignedBuilder plan).spends ++ [eve] ∧
      ∀ s ∈ minted.bundle.spends, s.coin ≠ plan.primary := by
  obtain ⟨eve, heve⟩ := exists_eveSpend_small
  have houtcome := smallMint_outcome unsignedBuilder heve (.inl rfl)
  have hplans : (smallMint unsignedBuilder).plans = [smallDraft.plan] := by
    rw [smallMint, mint_of_draft draft_small]
  have hparent : eve.coin.parent = smallCoin.id := (CatPuzzle.EveSpend.of_eq_ok heve).parent_eq
  have hid : smallCoin.id ≠ smallCoin.parent := by
    rw [Coin.id, Coin.idOf, ← Sha256.evaluate_eq_digest]
    decide +kernel
  refine ⟨_, smallDraft.plan, eve, houtcome, hplans, ⟨_, List.mem_cons_self, rfl⟩, rfl,
    fun h => ?_, fun s hs hcoin => hid ?_⟩
  · have hlength := congrArg List.length h
    cases hlength
  · obtain rfl := List.mem_singleton.1 hs
    rw [← hparent, hcoin]
    rfl

end CoinPuzzles
