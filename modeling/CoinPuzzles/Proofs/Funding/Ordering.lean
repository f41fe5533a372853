import CoinPuzzles.Proofs.Coin.Identity
import CoinPuzzles.Proofs.Funding.Cover
import CoinPuzzles.Proofs.Order.Sorting

/-!
# Proofs/Funding/Ordering — the order in which coins are taken

Coins come by amount and, of equal amounts, by id (`Coin.atMost_iff`).  The order is total, and as
long as ids do not collide it tells any two coins apart (`Coin.atMost_antisymm`): coins that are
listed twice stand side by side, where it does not matter which of them is which.  So the coins that
are at hand are sorted into one list, in whatever order they were found
(`Coin.mergeSort_eq_of_perm`), and a plan does not depend on that order (`Plan.make_eq_of_perm`).
-/

namespace CoinPuzzles

/-- The order of byte strings is that of lists of bytes. -/
theorem Order.atMost_bytes_iff : ∀ {s t : Bytes}, Order.atMost UInt8.toNat s t = true ↔ s ≤ t
  | [], t => iff_of_true rfl (List.nil_le t)
  | _ :: _, [] => by simp [Order.atMost]
  | a :: s, b :: t => by
    rw [Order.atMost, Bool.or_eq_true, Bool.and_eq_true, decide_eq_true_eq, beq_iff_eq,
      Order.atMost_bytes_iff, List.cons_le_cons_iff, UInt8.lt_iff_toNat_lt, UInt8.toNat_inj]

namespace Coin

/-- The order that coins are sorted by: first the amount, then the bytes of the id. -/
theorem atMost_eq_true_iff {a b : Coin} :
    atMost a b = true ↔
      a.amount < b.amount ∨ a.amount = b.amount ∧ Order.atMost UInt8.toNat a.id b.id = true := by
  rw [atMost, Bool.or_eq_true, Bool.and_eq_true, decide_eq_true_eq, beq_iff_eq]

/-- A coin comes no later than another: its amount is smaller, or the amounts are equal and its id
is not greater. -/
def NoLater (a b : Coin) : Prop := a.amount < b.amount ∨ a.amount = b.amount ∧ a.id ≤ b.id

/-- **A coin comes no later exactly if it is worth less, or as much with an id that is no
later.** -/
theorem atMost_iff {a b : Coin} : atMost a b = true ↔ a.NoLater b := by
  rw [atMost_eq_true_iff, Order.atMost_bytes_iff, NoLater]

theorem atMost_total (a b : Coin) : (atMost a b || atMost b a) = true := by
  have hid := Order.atMost_total UInt8.toNat a.id b.id
  rw [Bool.or_eq_true] at hid
  rw [Bool.or_eq_true, atMost_eq_true_iff, atMost_eq_true_iff]
  rcases Nat.lt_trichotomy a.amount b.amount with h | h | h
  · exact .inl (.inl h)
  · exact hid.imp (fun hab => .inr ⟨h, hab⟩) (fun hba => .inr ⟨h.symm, hba⟩)
  · exact .inr (.inl h)

theorem atMost_refl (c : Coin) : atMost c c = true := by
  simpa only [Bool.or_self] using atMost_total c c

theorem atMost_trans (a b c : Coin) (hab : atMost a b = true) (hbc : atMost b c = true) :
    atMost a c = true := by
  rw [atMost_eq_true_iff] at hab hbc ⊢
  rcases hab with hab | ⟨hab, hid⟩ <;> rcases hbc with hbc | ⟨hbc, hid'⟩
  · exact .inl (hab.trans hbc)
  · exact .inl (hab.trans_eq hbc)
  · exact .inl (hab.trans_lt hbc)
  · exact .inr ⟨hab.trans hbc, Order.atMost_trans _ _ _ _ hid hid'⟩

/-- **Coins that come no later than each other are equal**, unless their ids collide. -/
theorem atMost_antisymm {a b : Coin} (hfree : Sha256.CollisionFree [a.message, b.message])
    (hab : atMost a b = true) (hba : atMost b a = true) : a = b := by
  rw [atMost_eq_true_iff] at hab hba
  rcases hab with hab | ⟨hamount, hab⟩
  · omega
  · rcases hba with hba | ⟨-, hba⟩
    · omega
    · exact (id_inj hfree).1 (Order.atMost_antisymm _ (fun _ _ => UInt8.toNat_inj.1) _ _ hab hba)

section

variable {l l' : List Coin}

theorem pairwise_atMost_mergeSort (l : List Coin) :
    (l.mergeSort atMost).Pairwise (fun a b => atMost a b = true) :=
  List.pairwise_mergeSort atMost_trans atMost_total l

theorem pairwise_noLater_mergeSort (l : List Coin) : (l.mergeSort atMost).Pairwise NoLater :=
  (pairwise_atMost_mergeSort l).imp atMost_iff.1

/-- The order tells the coins of a list apart. -/
theorem atMost_antisymm_of_mem (hfree : Sha256.CollisionFree (l.map message)) :
    ∀ a ∈ l, ∀ b ∈ l, atMost a b = true → atMost b a = true → a = b := by
  intro a ha b hb
  refine atMost_antisymm (hfree.mono fun m hm => ?_)
  obtain rfl | hm := List.mem_cons.1 hm
  · exact List.mem_map_of_mem ha
  · obtain rfl := List.mem_singleton.1 hm
    exact List.mem_map_of_mem hb

/-- **The same coins are sorted into one list**, however they were listed. -/
theorem mergeSort_eq_of_perm (hfree : Sha256.CollisionFree (l.map message)) (h : l.Perm l') :
    l.mergeSort atMost = l'.mergeSort atMost :=
  Order.mergeSort_eq_of_perm atMost_trans atMost_total (atMost_antisymm_of_mem hfree) h

end

/-- The coin of an amount whose two hashes spell one number. -/
def numbered (n amount : Nat) : Coin :=
  ⟨Bytes.fixed 32 n, Bytes.fixed 32 n, amount, Bytes.length_fixed 32 n, Bytes.length_fixed 32 n⟩

end Coin

namespace Plan

/-- **A plan does not depend on the order of the coins at hand.**  Coins that are listed in another
order, some of them more than once, some of one amount, give the same plan or the same refusal,
unless the ids of two different ones collide. -/
theorem make_eq_of_perm {available available' : List Coin}
    (hfree : Sha256.CollisionFree (available.map Coin.message)) (h : available.Perm available')
    (targets : List Target) (changePuzzleHash : Bytes) (fee : Int) :
    make available targets changePuzzleHash fee = make available' targets changePuzzleHash fee := by
  have hempty : available.isEmpty = available'.isEmpty := h.isEmpty_eq
  rw [make, make, Coin.mergeSort_eq_of_perm hfree h, Coin.total_perm h, hempty]

/-- Three coins of one amount, one of them listed twice. -/
def ofOneAmount : List Coin :=
  [.numbered 4 1000, .numbered 2 1000, .numbered 3 1000, .numbered 2 1000]

/-- **Coins of one amount are planned alike in both orders**, since their ids differ. -/
theorem make_eq_of_perm_ofOneAmount :
    Sha256.CollisionFree (ofOneAmount.map Coin.message) ∧ ofOneAmount.Perm ofOneAmount.reverse ∧
      make ofOneAmount [⟨List.replicate 32 0x11, 2500⟩] (List.replicate 32 0x99) 0 =
        make ofOneAmount.reverse [⟨List.replicate 32 0x11, 2500⟩] (List.replicate 32 0x99) 0 := by
  have hfree : Sha256.CollisionFree (ofOneAmount.map Coin.message) := by
    simp only [Sha256.CollisionFree, ← Sha256.evaluate_eq_digest]
    decide +kernel
  have hperm : ofOneAmount.Perm ofOneAmount.reverse := (List.reverse_perm _).symm
  exact ⟨hfree, hperm, make_eq_of_perm hfree hperm _ _ _⟩

end Plan

end CoinPuzzles
