import CoinPuzzles.Proofs.Funding.Ordering
import CoinPuzzles.Proofs.Number.Numerals
import CoinPuzzles.Proofs.Outcome
import Mathlib.Algebra.Ring.Int.Defs
import Mathlib.Tactic.SplitIfs

/-!
# Proofs/Funding/LeastPlan — a plan takes no more coins than it needs

A plan needs amounts that are not negative (`Payable`) and a part of the sorted coins that covers
what is due; it takes the shortest such part, and what is left over is its change
(`Plan.make_eq_ok_iff`).  It fails exactly if an amount is negative, there is no coin, or all coins
together are worth less than what is due (`Plan.exists_fails_iff_due`), and that is a refusal unless
the number in it has too many digits (`Plan.Fails.isRefusal_iff`).  Main statement:
`Plan.make_least`.
-/

namespace CoinPuzzles.Plan

variable {available : List Coin} {targets : List Target} {changePuzzleHash : Bytes} {fee : Int}
  {p : Plan}

/-- What targets and a fee come to. -/
def due (targets : List Target) (fee : Int) : Int := (targets.map (·.amount)).sum + fee

/-- No amount that has to be paid is negative. -/
def Payable (targets : List Target) (fee : Int) : Prop := 0 ≤ fee ∧ ∀ t ∈ targets, 0 ≤ t.amount

theorem not_payable_iff :
    ¬ Payable targets fee ↔ fee < 0 ∨ ∃ t ∈ targets, t.amount < 0 := by
  simp only [Payable, not_and_or, not_forall, not_le, exists_prop]

/-- The sum of natural numbers that a plan computes is what is due. -/
theorem Payable.natCast_needed (h : Payable targets fee) :
    (needed targets fee.toNat : Int) = due targets fee := by
  obtain ⟨hfee, htargets⟩ := h
  induction targets with
  | nil =>
    rw [needed, due, List.foldr_nil, List.map_nil, List.sum_nil]
    omega
  | cons t targets ih =>
    have ht := htargets t List.mem_cons_self
    have hrest := ih fun t' ht' => htargets t' (List.mem_cons_of_mem t ht')
    rw [needed, due] at hrest ⊢
    rw [List.foldr_cons, List.map_cons, List.sum_cons]
    omega

theorem total_mergeSort (l : List Coin) : Coin.total (l.mergeSort Coin.atMost) = Coin.total l :=
  Coin.total_perm (List.mergeSort_perm l Coin.atMost)

theorem mergeSort_eq_nil_iff {l : List Coin} : l.mergeSort Coin.atMost = [] ↔ l = [] := by
  rw [← List.length_eq_zero_iff, List.length_mergeSort, List.length_eq_zero_iff]

/-! ## Why there is no plan -/

/-- **Why there is no plan**: the first of four conditions that holds, in the order of the checks,
with the failure for it. -/
inductive Fails (available : List Coin) (targets : List Target) (fee : Int) : PlanError → Prop
  | negativeFee (h : fee < 0) : Fails available targets fee (.ofFee fee)
  | negativeTarget (hfee : 0 ≤ fee) (h : ∃ t ∈ targets, t.amount < 0) :
    Fails available targets fee .negativeTarget
  | noCoins (hpayable : Payable targets fee) (h : available = []) :
    Fails available targets fee .noCoins
  | insufficient (hpayable : Payable targets fee) (hcoins : available ≠ [])
    (h : Coin.total available < needed targets fee.toNat) :
    Fails available targets fee (.ofTotal (needed targets fee.toNat) (Coin.total available))

theorem any_negative_iff :
    (targets.any fun t => decide (t.amount < 0)) = true ↔ ∃ t ∈ targets, t.amount < 0 := by
  simp only [List.any_eq_true, decide_eq_true_eq]

/-- What can be paid for passes the check of the targets. -/
theorem Payable.not_any_negative (h : Payable targets fee) :
    ¬ (targets.any fun t => decide (t.amount < 0)) = true := by
  rw [any_negative_iff]
  exact fun hnegative => not_payable_iff.2 (.inr hnegative) h

/-- Nothing covers an amount exactly if there is no coin, or the coins, in any order, fall short. -/
theorem cover_mergeSort_eq_none_iff {needed : Nat} :
    cover needed (available.mergeSort Coin.atMost) = none ↔
      available = [] ∨ Coin.total available < needed := by
  rw [cover_eq_none_iff, total_mergeSort, mergeSort_eq_nil_iff]

/-- What can be paid for is paid for by the part of the sorted coins that covers it. -/
theorem make_of_payable (h : Payable targets fee) (hcoins : available ≠ []) :
    make available targets changePuzzleHash fee =
      match cover (needed targets fee.toNat) (available.mergeSort Coin.atMost) with
      | none => .error (.ofTotal (needed targets fee.toNat) (Coin.total available))
      | some (first, others) => .ok {
          primary := first, others, targets, changePuzzleHash
          change := Coin.total (first :: others) - needed targets fee.toNat
          fee := fee.toNat } := by
  rw [make, if_neg (Int.not_lt.2 h.1), if_neg h.not_any_negative]
  exact if_neg (mt List.isEmpty_iff.1 hcoins)

/-- Without coins nothing is paid for. -/
theorem make_nil (h : Payable targets fee) :
    make [] targets changePuzzleHash fee = .error .noCoins := by
  rw [make, if_neg (Int.not_lt.2 h.1), if_neg h.not_any_negative, if_pos List.isEmpty_nil]

/-- **A plan fails exactly for one of these reasons.** -/
theorem make_eq_error_iff {cause : PlanError} :
    make available targets changePuzzleHash fee = .error cause ↔
      Fails available targets fee cause := by
  constructor
  · intro h
    by_cases hpayable : Payable targets fee
    · by_cases hcoins : available = []
      · rw [hcoins, make_nil hpayable] at h
        obtain rfl := Except.error.inj h
        exact .noCoins hpayable hcoins
      · rw [make_of_payable hpayable hcoins] at h
        split at h
        · next hcover =>
          obtain rfl := Except.error.inj h
          exact .insufficient hpayable hcoins
            ((cover_mergeSort_eq_none_iff.1 hcover).resolve_left hcoins)
        · exact absurd h Outcome.ok_ne_error
    · rw [make] at h
      split_ifs at h with hfee htargets
      · obtain rfl := Except.error.inj h
        exact .negativeFee hfee
      · obtain rfl := Except.error.inj h
        exact .negativeTarget (Int.not_lt.1 hfee) (any_negative_iff.1 htargets)
      all_goals
        rw [any_negative_iff] at htargets
        exact absurd (not_payable_iff.1 hpayable) (not_or.2 ⟨hfee, htargets⟩)
  · intro h
    cases h with
    | negativeFee h => rw [make, if_pos h]
    | negativeTarget hfee h => rw [make, if_neg (Int.not_lt.2 hfee), if_pos (any_negative_iff.2 h)]
    | noCoins hpayable h => rw [h, make_nil hpayable]
    | insufficient hpayable hcoins h =>
      rw [make_of_payable hpayable hcoins, cover_mergeSort_eq_none_iff.2 (.inr h)]

/-- There is a reason exactly if the amounts cannot be paid, there is no coin, or the coins fall
short. -/
theorem exists_fails_iff : (∃ cause, Fails available targets fee cause) ↔
    ¬ Payable targets fee ∨ available = [] ∨ Coin.total available < needed targets fee.toNat := by
  constructor
  · rintro ⟨_, h | ⟨hfee, h⟩ | ⟨hpayable, h⟩ | ⟨hpayable, hcoins, h⟩⟩
    · exact .inl (not_payable_iff.2 (.inl h))
    · exact .inl (not_payable_iff.2 (.inr h))
    · exact .inr (.inl h)
    · exact .inr (.inr h)
  · intro h
    by_cases hpayable : Payable targets fee
    · by_cases hcoins : available = []
      · exact ⟨_, .noCoins hpayable hcoins⟩
      · exact ⟨_, .insufficient hpayable hcoins
          ((h.resolve_left (not_not.2 hpayable)).resolve_left hcoins)⟩
    · obtain hfee | hfee := lt_or_ge fee 0
      · exact ⟨_, .negativeFee hfee⟩
      · exact ⟨_, .negativeTarget hfee ((not_payable_iff.1 hpayable).resolve_left hfee.not_gt)⟩

/-! ## What a plan is, and when there is one -/

/-- **A cover makes a plan**, of its coins, the targets and what is left over. -/
theorem make_of_cover {first : Coin} {others : List Coin} (h : Payable targets fee)
    (hcover : cover (needed targets fee.toNat) (available.mergeSort Coin.atMost) =
      some (first, others)) :
    make available targets changePuzzleHash fee = .ok {
      primary := first, others, targets, changePuzzleHash
      change := Coin.total (first :: others) - needed targets fee.toNat
      fee := fee.toNat } := by
  have hcoins : available ≠ [] := by
    rintro rfl
    rw [List.mergeSort_nil, cover] at hcover
    cases hcover
  rw [make_of_payable h hcoins, hcover]

/-- Coins that are sorted are taken as they stand. -/
theorem make_of_sorted {first : Coin} {others : List Coin} (h : Payable targets fee)
    (hsorted : available.Pairwise (fun a b => Coin.atMost a b = true))
    (hcover : cover (needed targets fee.toNat) available = some (first, others)) :
    make available targets changePuzzleHash fee = .ok {
      primary := first, others, targets, changePuzzleHash
      change := Coin.total (first :: others) - needed targets fee.toNat
      fee := fee.toNat } := by
  rw [← List.mergeSort_of_pairwise hsorted] at hcover
  exact make_of_cover h hcover

/-- **A plan takes the shortest part of the sorted coins that pays what is due.** -/
theorem make_eq_ok_iff :
    make available targets changePuzzleHash fee = .ok p ↔
      Payable targets fee ∧
        ShortestCover (needed targets fee.toNat) (available.mergeSort Coin.atMost) p.coins ∧
        p.targets = targets ∧ p.changePuzzleHash = changePuzzleHash ∧ p.fee = fee.toNat ∧
        p.change = Coin.total p.coins - needed targets fee.toNat := by
  constructor
  · intro h
    have hnone : ¬ ∃ cause, Fails available targets fee cause := by
      rintro ⟨cause, hcause⟩
      exact Outcome.ok_ne_error (h.symm.trans (make_eq_error_iff.2 hcause))
    rw [exists_fails_iff, ← cover_mergeSort_eq_none_iff, not_or, not_not] at hnone
    obtain ⟨hpayable, hcover⟩ := hnone
    obtain ⟨⟨first, others⟩, hpart⟩ := Option.ne_none_iff_exists'.1 hcover
    rw [make_of_cover hpayable hpart] at h
    obtain rfl := Except.ok.inj h
    exact ⟨hpayable, cover_eq_some_iff.1 hpart, rfl, rfl, rfl, rfl⟩
  · rintro ⟨hpayable, hcover, rfl, rfl, hfee, hchange⟩
    rw [make_of_cover hpayable (cover_eq_some_iff.2 hcover), ← hfee]
    rw [← hfee] at hchange
    exact congrArg (fun change => Except.ok { p with change }) hchange.symm

/-- **There is no plan exactly if** the fee or a target is negative, there is no coin, or the coins
are worth less than what is due. -/
theorem exists_fails_iff_due : (∃ cause, Fails available targets fee cause) ↔
    fee < 0 ∨ (∃ t ∈ targets, t.amount < 0) ∨ available = [] ∨
      (Coin.total available : Int) < due targets fee := by
  rw [exists_fails_iff, ← or_assoc (a := fee < 0), ← not_payable_iff]
  by_cases hpayable : Payable targets fee
  · rw [← hpayable.natCast_needed, Int.ofNat_lt]
  · exact iff_of_true (.inl hpayable) (.inl hpayable)

/-! ## Failures that cannot be shown -/

/-- The number that a refusal is to show has too many digits: the fee that is negative, or what is
due where all coins are worth less. -/
inductive Unshowable (available : List Coin) (targets : List Target) (fee : Int) : Prop
  | fee (h : fee ≤ -(10 ^ Numeral.digitLimit : Nat))
  | due (hpayable : Payable targets fee) (hcoins : available ≠ [])
    (h : (Coin.total available : Int) < due targets fee)
    (hlong : (10 ^ Numeral.digitLimit : Nat) ≤ due targets fee)

/-- A negative fee is shown with its sign, so it is too long exactly from the next power of ten
down. -/
theorem isRefusal_ofFee {fee : Int} (h : fee < 0) :
    (PlanError.ofFee fee).isRefusal = false ↔ fee ≤ -(10 ^ Numeral.digitLimit : Nat) := by
  rw [PlanError.ofFee]
  cases hwrite : Numeral.write fee with
  | ok shown =>
    have hshort := (Numeral.write_eq_ok_iff.1 hwrite).1
    exact iff_of_false (fun h => nomatch h) (by omega)
  | error cause =>
    have hlong := (Numeral.write_eq_error_iff.1 hwrite).1
    exact iff_of_true rfl (by omega)

/-- What is due is the greater one of the two numbers, so they can be shown if it can. -/
theorem isRefusal_ofTotal {needed available : Nat} (h : available < needed) :
    (PlanError.ofTotal needed available).isRefusal = false ↔ 10 ^ Numeral.digitLimit ≤ needed := by
  rw [PlanError.ofTotal]
  cases hwrite : Numeral.write needed with
  | ok shown =>
    have hshort := (Numeral.write_eq_ok_iff.1 hwrite).1
    rw [Int.natAbs_natCast] at hshort
    have htotal : Numeral.write available = .ok (toString (available : Int)) :=
      Numeral.write_eq_ok_iff.2 ⟨h.trans hshort, rfl⟩
    rw [htotal]
    exact iff_of_false (fun h => nomatch h) hshort.not_ge
  | error cause =>
    exact iff_of_true rfl (Numeral.write_eq_error_iff.1 hwrite).1

/-- **A failure is no refusal exactly if a number in it cannot be shown.** -/
theorem Fails.isRefusal_iff {cause : PlanError} (h : Fails available targets fee cause) :
    cause.isRefusal = false ↔ Unshowable available targets fee := by
  have hpos : 0 < 10 ^ Numeral.digitLimit := Nat.pow_pos (by decide)
  cases h with
  | negativeFee h =>
    rw [isRefusal_ofFee h]
    refine ⟨.fee, ?_⟩
    rintro (hlong | ⟨hpayable, -, -, -⟩)
    · exact hlong
    · exact absurd h (Int.not_lt.2 hpayable.1)
  | negativeTarget hfee h =>
    refine iff_of_false (fun h => nomatch h) ?_
    rintro (hlong | ⟨hpayable, -, -, -⟩)
    · omega
    · exact not_payable_iff.2 (.inr h) hpayable
  | noCoins hpayable h =>
    refine iff_of_false (fun h => nomatch h) ?_
    rintro (hlong | ⟨-, hcoins, -, -⟩)
    · have := hpayable.1
      omega
    · exact hcoins h
  | insufficient hpayable hcoins h =>
    rw [isRefusal_ofTotal h]
    have hdue := hpayable.natCast_needed
    constructor
    · intro hlong
      exact .due hpayable hcoins (by omega) (by omega)
    · rintro (hlong | ⟨-, -, -, hlong⟩)
      · have := hpayable.1
        omega
      · omega

/-- **Selection is correct and least.**  There is a plan unless an amount is negative, there is no
coin, or all coins are worth less than what is due; the failure is a refusal unless the number that
it is to show has too many digits.  A plan takes the shortest part, not empty, of the coins sorted
by amount and id that pays what is due; what these coins are worth beyond that is the change, and of
several coins the last is worth more than the change. -/
theorem make_least (available : List Coin) (targets : List Target) (changePuzzleHash : Bytes)
    (fee : Int) :
    ((∃ cause, make available targets changePuzzleHash fee = .error cause) ↔
      fee < 0 ∨ (∃ t ∈ targets, t.amount < 0) ∨ available = [] ∨
        (Coin.total available : Int) < due targets fee) ∧
    ((∃ cause, make available targets changePuzzleHash fee = .error cause ∧
        cause.isRefusal = true) ↔
      (fee < 0 ∨ (∃ t ∈ targets, t.amount < 0) ∨ available = [] ∨
        (Coin.total available : Int) < due targets fee) ∧ ¬ Unshowable available targets fee) ∧
    ∀ p, make available targets changePuzzleHash fee = .ok p →
      ∃ (sorted : List Coin) (needed : Nat), sorted.Perm available ∧
        sorted.Pairwise Coin.NoLater ∧ needed = due targets fee ∧
        ShortestCover needed sorted p.coins ∧
        (Coin.total p.coins : Int) = due targets fee + p.change ∧
        ∀ last ∈ p.coins.getLast?, 1 < p.coins.length → p.change < last.amount := by
  refine ⟨by simp only [make_eq_error_iff, exists_fails_iff_due], ?_, fun p h => ?_⟩
  · simp only [make_eq_error_iff, ← exists_fails_iff_due]
    constructor
    · rintro ⟨cause, h, hrefusal⟩
      exact ⟨⟨cause, h⟩, mt h.isRefusal_iff.2 (by simp [hrefusal])⟩
    · rintro ⟨⟨cause, h⟩, hshown⟩
      exact ⟨cause, h, Bool.not_eq_false _ ▸ mt h.isRefusal_iff.1 hshown⟩
  · obtain ⟨hpayable, hcover, -, -, -, hchange⟩ := make_eq_ok_iff.1 h
    have hneeded := hpayable.natCast_needed
    have hreaches := hcover.reaches
    refine ⟨_, _, List.mergeSort_perm _ _, Coin.pairwise_noLater_mergeSort available, hneeded,
      hcover, by omega, fun last hlast hmore => ?_⟩
    have hexcess := hcover.total_lt_needed_add hmore hlast
    omega

/-- The two smaller of three coins pay for a target and a fee. -/
def smallestTwo : Plan where
  primary := Coin.numbered 2 300
  others := [Coin.numbered 3 900]
  targets := [⟨List.replicate 32 0x11, 1000⟩]
  changePuzzleHash := List.replicate 32 0x99
  change := 100
  fee := 100

/-- The two coins of least worth pay for the target and the fee, and the third is left. -/
theorem make_smallestTwo :
    make [Coin.numbered 1 5000, Coin.numbered 2 300, Coin.numbered 3 900]
      [⟨List.replicate 32 0x11, 1000⟩] (List.replicate 32 0x99) 100 = .ok smallestTwo := by
  have hsorted : [Coin.numbered 1 5000, Coin.numbered 2 300, Coin.numbered 3 900].mergeSort
      Coin.atMost = [Coin.numbered 2 300, Coin.numbered 3 900, Coin.numbered 1 5000] := by
    simp [List.mergeSort, List.MergeSort.Internal.splitInTwo, Coin.atMost, Coin.numbered]
  refine make_eq_ok_iff.2 ⟨⟨by decide, by decide⟩, ?_, rfl, rfl, rfl, rfl⟩
  rw [hsorted]
  exact cover_eq_some_iff.1 rfl

/-- **The two smallest coins are taken**, and the change is worth less than the second of them. -/
theorem make_least_smallestTwo :
    make [Coin.numbered 1 5000, Coin.numbered 2 300, Coin.numbered 3 900]
        [⟨List.replicate 32 0x11, 1000⟩] (List.replicate 32 0x99) 100 = .ok smallestTwo ∧
      (Coin.total smallestTwo.coins : Int) =
        due [⟨List.replicate 32 0x11, 1000⟩] 100 + smallestTwo.change ∧
      smallestTwo.change < (Coin.numbered 3 900).amount := by
  obtain ⟨-, -, hplan⟩ := make_least
    [Coin.numbered 1 5000, Coin.numbered 2 300, Coin.numbered 3 900]
    [⟨List.replicate 32 0x11, 1000⟩] (List.replicate 32 0x99) 100
  obtain ⟨_, _, -, -, -, -, htotal, hlast⟩ := hplan _ make_smallestTwo
  exact ⟨make_smallestTwo, htotal, hlast _ rfl (by decide)⟩

/-- A target of the largest amount that can be shown. -/
def nines : Target := ⟨List.replicate 32 0x11, (10 ^ Numeral.digitLimit : Nat) - 1⟩

/-- **A debt of one digit too many is not refused**: with a fee of one the largest amount that can
be shown comes to one that cannot, and the failure is that of writing it. -/
theorem make_nines :
    (Coin.total [Coin.numbered 1 1] : Int) < due [nines] 1 ∧
      make [Coin.numbered 1 1] [nines] (List.replicate 32 0x99) 1 =
        .error (.numeral .tooLongToWrite) ∧
      PlanError.isRefusal (.numeral .tooLongToWrite) = false := by
  have hpow : 1 < 10 ^ Numeral.digitLimit := Nat.one_lt_pow (by decide) (by decide)
  have hamount : nines.amount = (10 ^ Numeral.digitLimit : Nat) - 1 := rfl
  have hdue : due [nines] 1 = (10 ^ Numeral.digitLimit : Nat) := by
    rw [due, List.map_singleton, List.sum_singleton]
    omega
  have hpayable : Payable [nines] 1 := ⟨by decide, List.forall_mem_singleton.2 (by omega)⟩
  have htotal : Coin.total [Coin.numbered 1 1] = 1 := rfl
  have hneeded := hpayable.natCast_needed
  refine ⟨by omega, make_eq_error_iff.2 ?_, rfl⟩
  have hfails : Fails [Coin.numbered 1 1] [nines] 1 _ :=
    .insufficient hpayable (List.cons_ne_nil _ _) (by omega)
  have hwrite : Numeral.write (needed [nines] (1 : Int).toNat) = .error .tooLongToWrite :=
    Numeral.write_eq_error_iff.2 ⟨by omega, rfl⟩
  rwa [PlanError.ofTotal, hwrite] at hfails

end CoinPuzzles.Plan
