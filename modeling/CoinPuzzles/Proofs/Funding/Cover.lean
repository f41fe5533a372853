import CoinPuzzles.Funding.Plan
import Mathlib.Algebra.BigOperators.Group.List.Basic
import Mathlib.Algebra.GroupWithZero.Nat
import Mathlib.Data.List.Infix

/-!
# Proofs/Funding/Cover — the shortest part in front of a list that covers an amount

Coins are taken from the front of a list as long as something is missing.  One step takes a coin and
leaves what it does not pay to the rest (`ShortestCover.cons_iff`); the run finds the shortest part,
not empty, whose total reaches the amount (`cover_eq_some_iff`), and there is none exactly if the
whole list falls short (`cover_eq_none_iff`).  A part is too short exactly if its total is too small
(`ShortestCover.total_lt_iff`), so the last of several coins is needed for more than the change.
-/

namespace CoinPuzzles

namespace Coin

theorem total_eq_sum : ∀ l : List Coin, total l = (l.map (·.amount)).sum
  | [] => rfl
  | c :: l => by rw [total, List.map_cons, List.sum_cons, total_eq_sum l]

@[simp] theorem total_append (l l' : List Coin) : total (l ++ l') = total l + total l' := by
  rw [total_eq_sum, total_eq_sum, total_eq_sum, List.map_append, List.sum_append]

@[simp] theorem total_singleton (c : Coin) : total [c] = c.amount := Nat.add_zero _

theorem total_perm {l l' : List Coin} (h : l.Perm l') : total l = total l' := by
  rw [total_eq_sum, total_eq_sum, (h.map _).sum_eq]

/-- The first coins of a list are worth no more than all of them. -/
theorem total_le_of_prefix {l l' : List Coin} (h : l <+: l') : total l ≤ total l' := by
  obtain ⟨rest, rfl⟩ := h
  rw [total_append]
  exact Nat.le_add_right _ _

end Coin

/-- The shortest part in front of a list of coins, not empty, whose total reaches an amount. -/
structure ShortestCover (needed : Nat) (l part : List Coin) : Prop where
  ne_nil : part ≠ []
  front : part <+: l
  reaches : needed ≤ Coin.total part
  shortest : ∀ other, other <+: l → other ≠ [] → needed ≤ Coin.total other → part <+: other

variable {needed : Nat} {c : Coin} {l part other : List Coin}

/-! ## One step and the run -/

/-- **If the first coin is enough it is the cover.** -/
theorem ShortestCover.of_head (h : needed ≤ c.amount) : ShortestCover needed (c :: l) [c] where
  ne_nil := List.cons_ne_nil _ _
  front := List.prefix_append [c] l
  reaches := h.trans_eq (Coin.total_singleton c).symm
  shortest other hother hne _ := by
    obtain rfl | ⟨rest, rfl, -⟩ := List.prefix_cons_iff.1 hother
    · exact absurd rfl hne
    · exact List.prefix_append [c] rest

/-- **If it is not, it comes in front of a cover of the rest.** -/
theorem ShortestCover.of_tail (hmissing : c.amount < needed)
    (h : ShortestCover (needed - c.amount) l part) :
    ShortestCover needed (c :: l) (c :: part) where
  ne_nil := List.cons_ne_nil _ _
  front := List.cons_prefix_cons.2 ⟨rfl, h.front⟩
  reaches := by
    have := h.reaches
    rw [Coin.total]
    omega
  shortest other hother hne hreaches := by
    obtain rfl | ⟨rest, rfl, hrest⟩ := List.prefix_cons_iff.1 hother
    · exact absurd rfl hne
    · rw [Coin.total] at hreaches
      -- The coin alone is not enough, so the rest has to be there.
      have hrestNe : rest ≠ [] := by
        rintro rfl
        exact absurd hreaches (by rw [Coin.total]; omega)
      exact List.cons_prefix_cons.2 ⟨rfl, h.shortest rest hrest hrestNe (by omega)⟩

/-- **One step.**  A coin that is enough is all that is taken; one that is not is taken, and what is
missing is covered by the rest. -/
theorem ShortestCover.cons_iff :
    ShortestCover needed (c :: l) part ↔
      needed ≤ c.amount ∧ part = [c] ∨
        c.amount < needed ∧
          ∃ rest, part = c :: rest ∧ ShortestCover (needed - c.amount) l rest := by
  constructor
  · intro h
    obtain hnil | ⟨rest, rfl, hrest⟩ := List.prefix_cons_iff.1 h.front
    · exact absurd hnil h.ne_nil
    rcases Nat.lt_or_ge c.amount needed with hmissing | henough
    · have hreaches := h.reaches
      rw [Coin.total] at hreaches
      refine .inr ⟨hmissing, rest, rfl, ?_, hrest, by omega, fun other hother _ htotal => ?_⟩
      · rintro rfl
        exact absurd hreaches (by rw [Coin.total]; omega)
      · have hcons := h.shortest (c :: other) (List.cons_prefix_cons.2 ⟨rfl, hother⟩)
          (List.cons_ne_nil _ _) (by rw [Coin.total]; omega)
        exact (List.cons_prefix_cons.1 hcons).2
    · have hsingle := h.shortest [c] (List.prefix_append [c] l) (List.cons_ne_nil _ _)
        (henough.trans_eq (Coin.total_singleton c).symm)
      exact .inl ⟨henough, hsingle.eq_of_length_le (Nat.le_add_left 1 rest.length)⟩
  · rintro (⟨henough, rfl⟩ | ⟨hmissing, rest, rfl, hrest⟩)
    · exact .of_head henough
    · exact .of_tail hmissing hrest

/-- **The run finds the shortest part.** -/
theorem cover_eq_some_iff : ∀ {needed : Nat} {l : List Coin} {first : Coin} {others : List Coin},
    cover needed l = some (first, others) ↔ ShortestCover needed l (first :: others)
  | needed, [], first, others => by
    constructor
    · intro h
      cases h
    · intro h
      exact absurd (List.prefix_nil.1 h.front) h.ne_nil
  | needed, c :: l, first, others => by
    rw [cover, ShortestCover.cons_iff]
    split
    · next henough => simp [henough, Nat.not_lt.2 henough, eq_comm]
    · next hmissing =>
      simp only [Option.map_eq_some_iff, Prod.exists, Prod.mk.injEq, hmissing, false_and, false_or,
        Nat.not_le.1 hmissing, true_and, List.cons.injEq]
      constructor
      · rintro ⟨d, ds, hrest, rfl, rfl⟩
        exact ⟨d :: ds, ⟨rfl, rfl⟩, cover_eq_some_iff.1 hrest⟩
      · rintro ⟨rest, ⟨rfl, rfl⟩, hrest⟩
        obtain ⟨d, ds, rfl⟩ := List.exists_cons_of_ne_nil hrest.ne_nil
        exact ⟨d, ds, cover_eq_some_iff.2 hrest, rfl, rfl⟩

/-- **Nothing covers an amount exactly if there is no coin, or all of them fall short.** -/
theorem cover_eq_none_iff : ∀ {needed : Nat} {l : List Coin},
    cover needed l = none ↔ l = [] ∨ Coin.total l < needed
  | needed, [] => by simp [cover]
  | needed, c :: l => by
    rw [cover, Coin.total]
    split
    · simp only [reduceCtorEq, List.cons_ne_nil, false_or, false_iff]
      omega
    · rw [Option.map_eq_none_iff, cover_eq_none_iff]
      simp only [List.cons_ne_nil, false_or]
      constructor
      · rintro (rfl | h)
        · rw [Coin.total]
          omega
        · omega
      · intro h
        exact .inr (by omega)

/-! ## What is too short -/

namespace ShortestCover

/-- **A part falls short of the amount exactly if it is shorter than the part that is taken.** -/
theorem total_lt_iff (h : ShortestCover needed l part) (hother : other <+: l) (hne : other ≠ []) :
    Coin.total other < needed ↔ other.length < part.length := by
  constructor
  · intro hshort
    by_contra hlength
    have hlonger := List.prefix_of_prefix_length_le h.front hother (Nat.not_lt.1 hlength)
    exact absurd (h.reaches.trans (Coin.total_le_of_prefix hlonger)) (Nat.not_le.2 hshort)
  · intro hlength
    by_contra htotal
    exact absurd (h.shortest other hother hne (Nat.not_lt.1 htotal)).length_le
      (Nat.not_le.2 hlength)

/-- **Of several coins the last is needed**: what is left over is less than its amount. -/
theorem total_lt_needed_add {last : Coin} (h : ShortestCover needed l part)
    (hmore : 1 < part.length) (hlast : last ∈ part.getLast?) :
    Coin.total part < needed + last.amount := by
  have hsplit := List.dropLast_append_getLast? last hlast
  have hlength : part.dropLast.length < part.length := by
    rw [List.length_dropLast]
    omega
  have hne : part.dropLast ≠ [] := by
    rw [← List.length_pos_iff, List.length_dropLast]
    omega
  have hshort := (h.total_lt_iff ((List.dropLast_prefix part).trans h.front) hne).2 hlength
  rw [← hsplit, Coin.total_append, Coin.total_singleton]
  omega

end ShortestCover

end CoinPuzzles
