import CoinPuzzles.Proofs.Funding.LeastPlan
import Mathlib.Algebra.BigOperators.Group.Finset.Basic

/-!
# Proofs/Funding/Repetition — coins that are listed more than once

A plan takes each entry of the list of coins at hand once, so it takes a coin no more often than it
is listed.  It does not look for repetitions, though: a coin that is listed twice and needed twice
is counted twice (`Plan.repeated_coin_counted_twice`), as if its amount could be spent again.  Equal
coins stand side by side in the order in which coins are taken, so it is known which repetitions do
harm: those where the coins before them and one copy are not enough.  Main statement:
`Plan.make_repetition`.
-/

namespace CoinPuzzles

/-- Whether a coin comes before another. -/
def Coin.isBefore (a b : Coin) : Bool := !Coin.atMost b a

/-! ## Copies in the shortest part -/

namespace ShortestCover

variable {needed copies : Nat} {c : Coin} {before later part : List Coin}

theorem count_eq (h : ShortestCover needed (before ++ (List.replicate copies c ++ later)) part)
    (hbefore : c ∉ before) (hlater : c ∉ later) :
    part.count c = min (part.length - before.length) copies := by
  have hpart := List.prefix_iff_eq_take.1 h.front
  have hfront : (before.take part.length).count c = 0 :=
    List.count_eq_zero.2 fun hmem => hbefore (List.mem_of_mem_take hmem)
  have hback : (later.take (part.length - before.length - copies)).count c = 0 :=
    List.count_eq_zero.2 fun hmem => hlater (List.mem_of_mem_take hmem)
  rw [List.take_append, List.take_append, List.take_replicate, List.length_replicate] at hpart
  rw [congrArg (List.count c) hpart, List.count_append, List.count_append, hfront, hback,
    List.count_replicate_self, Nat.zero_add, Nat.add_zero]

/-- **A second copy is taken exactly if there is one and the first does not complete the amount**
that is due. -/
theorem two_le_count_iff
    (h : ShortestCover needed (before ++ (List.replicate copies c ++ later)) part)
    (hbefore : c ∉ before) (hlater : c ∉ later) :
    2 ≤ part.count c ↔ 2 ≤ copies ∧ Coin.total before + c.amount < needed := by
  rw [h.count_eq hbefore hlater, Nat.le_min, and_comm]
  refine and_congr_right fun hcopies => ?_
  have hone : before ++ [c] <+: before ++ (List.replicate copies c ++ later) := by
    obtain ⟨more, rfl⟩ := Nat.exists_eq_add_of_le hcopies
    rw [Nat.add_comm, List.replicate_succ, List.cons_append]
    exact (List.prefix_append_right_inj before).2 (List.prefix_append [c] _)
  have hshort := h.total_lt_iff hone (List.append_ne_nil_of_right_ne_nil _ (List.cons_ne_nil _ _))
  rw [Coin.total_append, Coin.total_singleton, List.length_append, List.length_singleton] at hshort
  rw [hshort]
  omega

end ShortestCover

/-! ## Copies in a plan -/

namespace Plan

variable {available : List Coin} {targets : List Target} {changePuzzleHash : Bytes} {fee : Int}
  {p : Plan}

theorem count_coins_le (h : make available targets changePuzzleHash fee = .ok p) (c : Coin) :
    p.coins.count c ≤ available.count c := by
  obtain ⟨-, hcover, -⟩ := make_eq_ok_iff.1 h
  rw [← (List.mergeSort_perm available Coin.atMost).count_eq c]
  exact hcover.front.sublist.count_le c

/-- **A plan takes two copies of a coin exactly if** it is listed twice, and the coins before it and
one copy are worth less than what is due. -/
theorem two_le_count_coins_iff (hfree : Sha256.CollisionFree (available.map Coin.message))
    (h : make available targets changePuzzleHash fee = .ok p) (c : Coin) :
    2 ≤ p.coins.count c ↔ 2 ≤ available.count c ∧
      (Coin.total (available.filter (·.isBefore c)) : Int) + c.amount < due targets fee := by
  obtain ⟨hpayable, hcover, -⟩ := make_eq_ok_iff.1 h
  have hperm := List.mergeSort_perm available Coin.atMost
  have hsortedFree : ∀ a ∈ available.mergeSort Coin.atMost, ∀ b ∈ available.mergeSort Coin.atMost,
      Coin.atMost a b = true → Coin.atMost b a = true → a = b := fun a ha b hb =>
    Coin.atMost_antisymm_of_mem hfree a (hperm.mem_iff.1 ha) b (hperm.mem_iff.1 hb)
  obtain ⟨later, hlater, hsplit⟩ := Order.exists_eq_filter_append_replicate Coin.atMost_trans
    Coin.atMost_total c (Coin.pairwise_atMost_mergeSort available) hsortedFree
  have hbefore : c ∉ (available.mergeSort Coin.atMost).filter (fun a => !Coin.atMost c a) := by
    intro hmem
    simpa [Coin.atMost_refl] using (List.mem_filter.1 hmem).2
  rw [hsplit] at hcover
  rw [hcover.two_le_count_iff hbefore hlater, hperm.count_eq, Coin.total_perm (hperm.filter _),
    ← hpayable.natCast_needed]
  exact and_congr_right fun _ => by
    rw [← Int.natCast_add, Int.ofNat_lt]
    rfl

/-- **What a plan does with repeated coins.**  It takes no coin more often than it is listed.  If no
coin is listed twice, its coins are different from each other and their total is that of a set.  In
general its coins are different from each other exactly if what is due is reached with the first
copy of each repeated coin, unless the ids of two different coins collide. -/
theorem make_repetition (h : make available targets changePuzzleHash fee = .ok p) :
    (∀ c, p.coins.count c ≤ available.count c) ∧
      (available.Nodup →
        p.coins.Nodup ∧ Coin.total p.coins = ∑ c ∈ p.coins.toFinset, c.amount) ∧
      (Sha256.CollisionFree (available.map Coin.message) →
        (p.coins.Nodup ↔ ∀ c, 2 ≤ available.count c →
          due targets fee ≤ Coin.total (available.filter (·.isBefore c)) + c.amount)) := by
  refine ⟨count_coins_le h, fun hnodup => ?_, fun hfree => ?_⟩
  · have hcoins : p.coins.Nodup := List.nodup_iff_count_le_one.2 fun c =>
      (count_coins_le h c).trans (List.nodup_iff_count_le_one.1 hnodup c)
    exact ⟨hcoins, by rw [List.sum_toFinset _ hcoins, Coin.total_eq_sum]⟩
  · rw [List.nodup_iff_count_le_one]
    refine forall_congr' fun c => ?_
    have hcount := two_le_count_coins_iff hfree h c
    rw [← Nat.not_lt, ← Int.not_lt, ← not_and]
    exact not_congr hcount

/-- Coins of which the greater is listed twice. -/
def greaterTwice : List Coin := [.numbered 2 300, .numbered 3 900, .numbered 3 900]

/-- A repetition that does no harm: one copy completes what is due. -/
theorem make_repetition_greaterTwice :
    make greaterTwice [⟨List.replicate 32 0x11, 1000⟩] (List.replicate 32 0x99) 100 =
        .ok smallestTwo ∧
      Sha256.CollisionFree (greaterTwice.map Coin.message) ∧ ¬ greaterTwice.Nodup ∧
      smallestTwo.coins.Nodup := by
  have hless : Coin.atMost (.numbered 2 300) (.numbered 3 900) = true := by decide
  have hgreater : Coin.atMost (.numbered 3 900) (.numbered 2 300) = false := by decide
  have hsorted : greaterTwice.Pairwise (fun a b => Coin.atMost a b = true) := by
    simp [greaterTwice, hless, Coin.atMost_refl]
  have hmake : make greaterTwice [⟨List.replicate 32 0x11, 1000⟩] (List.replicate 32 0x99) 100 =
      .ok smallestTwo := make_of_sorted ⟨by decide, by decide⟩ hsorted rfl
  have hfree : Sha256.CollisionFree (greaterTwice.map Coin.message) := by
    simp only [Sha256.CollisionFree, ← Sha256.evaluate_eq_digest]
    decide +kernel
  refine ⟨hmake, hfree, by decide, ((make_repetition hmake).2.2 hfree).2 fun c hc => ?_⟩
  have hmem : c ∈ greaterTwice := List.count_pos_iff.1 (Nat.lt_of_lt_of_le Nat.zero_lt_two hc)
  obtain rfl | hmem := List.mem_cons.1 hmem
  · exact absurd hc (by decide)
  · obtain rfl : c = .numbered 3 900 := by simpa using hmem
    have hbefore : greaterTwice.filter (·.isBefore (.numbered 3 900)) = [.numbered 2 300] := by
      simp [greaterTwice, Coin.isBefore, hgreater, Coin.atMost_refl]
    rw [hbefore]
    decide

/-- A plan that pays for a target of 2000 with both entries of one coin of 1000. -/
def twiceSpent : Plan where
  primary := .numbered 1 1000
  others := [.numbered 1 1000]
  targets := [⟨List.replicate 32 0x11, 2000⟩]
  changePuzzleHash := List.replicate 32 0x99
  change := 0
  fee := 0

/-- **A coin that is listed twice can be counted twice.** -/
theorem repeated_coin_counted_twice :
    make [.numbered 1 1000, .numbered 1 1000] [⟨List.replicate 32 0x11, 2000⟩]
        (List.replicate 32 0x99) 0 = .ok twiceSpent ∧
      ¬ twiceSpent.coins.Nodup :=
  ⟨make_of_sorted ⟨by decide, by decide⟩ (List.pairwise_pair.2 (Coin.atMost_refl _)) rfl,
    by decide⟩

end Plan

end CoinPuzzles
