import CoinPuzzles.Proofs.Coin.Identity
import CoinPuzzles.Proofs.Signing.Conditions
import CoinPuzzles.Proofs.Signing.Grouping

/-!
# Proofs/Signing/CoinMessages — a signature for a coin is good for that coin only

A condition may ask for a signature that is bound to the coin and to the network.  What is signed
then is the message of the condition, the id of the coin and the genesis challenge, with nothing
between them; the message is the puzzle's own choice and of any length.  The two others have 32
bytes each, so what is signed can be taken apart from its end (`boundMessage_inj`), and an id has
one coin.  Main statement: `coinMessage_eq_iff`.
-/

namespace CoinPuzzles

variable {s s' : Spend} {message message' genesis genesis' : Bytes}

/-- **What is signed for a coin determines its parts**, whatever the message imitates. -/
theorem boundMessage_inj {id id' : Bytes} (hid : id.length = id'.length)
    (hgenesis : genesis.length = genesis'.length) :
    message ++ id ++ genesis = message' ++ id' ++ genesis' ↔
      message = message' ∧ id = id' ∧ genesis = genesis' := by
  constructor
  · intro h
    obtain ⟨h, hgenesis⟩ := List.append_inj' h hgenesis
    obtain ⟨hmessage, hid⟩ := List.append_inj' h hid
    exact ⟨hmessage, hid, hgenesis⟩
  · rintro ⟨rfl, rfl, rfl⟩
    rfl

/-- The spend has been run and its demands are these; the condition of the `i`-th asks for a
signature of the message that is bound to the coin. -/
def BoundAt (runner : Runner) (genesis : Bytes) (s : Spend) (ds : List Demand) (i : Nat)
    (message : Bytes) : Prop :=
  ∃ earlier conditions, runner.Reports earlier s conditions ∧
    ((demands runner genesis s).runFrom earlier).1 = .ok ds ∧
      ∃ c key, (conditions.elements.filter asksSignature)[i]? = some c ∧
        Asks c signCoinMessage key message

theorem BoundAt.exists_demand {runner : Runner} {ds : List Demand} {i : Nat}
    (h : BoundAt runner genesis s ds i message) :
    ∃ d, ds[i]? = some d ∧ d.message = message ++ s.coin.id ++ genesis := by
  obtain ⟨earlier, conditions, hreport, hds, c, key, hc, hasks⟩ := h
  rw [runFrom_demands hreport, demandsOf_eq] at hds
  obtain ⟨d, hd, hdemand⟩ := Outcome.exists_getElem?_of_mapM hds hc
  obtain rfl := Except.ok.inj ((demand_of_asks_coin hasks).symm.trans hdemand)
  exact ⟨_, hd, rfl⟩

/-- **Messages for coins are bound to coin and network.**  For two conditions of the kind that is
bound to the coin, two spends are to sign the same, whoever runs them, exactly if the conditions
name one message, the coins are one triple and the genesis challenges are equal, unless the messages
of the coin ids collide. -/
theorem coinMessage_eq_iff {runner runner' : Runner} {ds ds' : List Demand} {i j : Nat}
    (h : BoundAt runner genesis s ds i message) (h' : BoundAt runner' genesis' s' ds' j message')
    (hgenesis : genesis.length = 32) (hgenesis' : genesis'.length = 32)
    (hfree : Sha256.CollisionFree [s.coin.message, s'.coin.message]) :
    ∃ d d', ds[i]? = some d ∧ ds'[j]? = some d' ∧
      (d.message = d'.message ↔ message = message' ∧
        (s.coin.parent = s'.coin.parent ∧ s.coin.puzzleHash = s'.coin.puzzleHash ∧
          s.coin.amount = s'.coin.amount) ∧ genesis = genesis') := by
  obtain ⟨d, hd, hmessage⟩ := h.exists_demand
  obtain ⟨d', hd', hmessage'⟩ := h'.exists_demand
  refine ⟨d, d', hd, hd', ?_⟩
  rw [hmessage, hmessage', ← Coin.eq_iff_triple, ← Coin.id_inj hfree]
  exact boundMessage_inj (s.coin.length_id.trans s'.coin.length_id.symm)
    (hgenesis.trans hgenesis'.symm)

/-- The same condition of two sample spends asks for two signatures. -/
theorem coinMessage_eq_iff_sampleSpend :
    let runner := Runner.uniform (.ofList sampleConditions)
    let genesis : Bytes := List.replicate 32 0xAA
    let ds (s : Spend) : List Demand :=
      [⟨Curve.infinityBytes 48, [0x07]⟩,
        ⟨Curve.infinityBytes 48, [0x07] ++ s.coin.id ++ genesis⟩]
    (∀ s, BoundAt runner genesis s (ds s) 1 [0x07]) ∧ genesis.length = 32 ∧
      Sha256.CollisionFree [(sampleSpend 1).coin.message, (sampleSpend 2).coin.message] ∧
      ∃ d d', (ds (sampleSpend 1))[1]? = some d ∧ (ds (sampleSpend 2))[1]? = some d' ∧
        d.message ≠ d'.message := by
  intro runner genesis ds
  have hbound : ∀ s, BoundAt runner genesis s (ds s) 1 [0x07] := by
    intro s
    refine ⟨[], .ofList sampleConditions, reports_sampleConditions [] s, ?_,
      sampleConditions[2], _, rfl, [0x32], [.nil], rfl, rfl⟩
    rw [runFrom_demands (reports_sampleConditions [] s)]
    rfl
  have hgenesis : genesis.length = 32 := List.length_replicate
  have hfree : Sha256.CollisionFree
      [(sampleSpend 1).coin.message, (sampleSpend 2).coin.message] := by
    simp only [Sha256.CollisionFree, ← Sha256.evaluate_eq_digest]
    decide +kernel
  obtain ⟨d, d', hd, hd', hiff⟩ :=
    coinMessage_eq_iff (hbound (sampleSpend 1)) (hbound (sampleSpend 2)) hgenesis hgenesis hfree
  exact ⟨hbound, hgenesis, hfree, d, d', hd, hd', fun h =>
    absurd (hiff.1 h).2.1.1 (by decide)⟩

end CoinPuzzles
