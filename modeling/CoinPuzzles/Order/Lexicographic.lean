/-!
# Order/Lexicographic — the order of dictionaries

`atMost` compares two sequences by a key of their entries: the first difference decides, and a
sequence comes before its extensions.  The order is total and transitive, and it is antisymmetric
if the key is injective.
-/

namespace CoinPuzzles.Order

variable {α : Type} (key : α → Nat)

/-- Whether a sequence comes before another, or has the same keys. -/
def atMost : List α → List α → Bool
  | [], _ => true
  | _ :: _, [] => false
  | a :: as, b :: bs => key a < key b || (key a == key b && atMost as bs)

theorem atMost_refl : ∀ s : List α, atMost key s s = true
  | [] => rfl
  | a :: as => by simp [atMost, atMost_refl as]

theorem atMost_total : ∀ s t : List α, (atMost key s t || atMost key t s) = true
  | [], t => by simp [atMost]
  | _ :: _, [] => by simp [atMost]
  | a :: as, b :: bs => by
    have ih := atMost_total as bs
    simp only [atMost, Bool.or_eq_true, Bool.and_eq_true, decide_eq_true_eq, beq_iff_eq] at ih ⊢
    rcases Nat.lt_trichotomy (key a) (key b) with h | h | h
    · exact Or.inl (Or.inl h)
    · exact ih.imp (fun h' => Or.inr ⟨h, h'⟩) (fun h' => Or.inr ⟨h.symm, h'⟩)
    · exact Or.inr (Or.inl h)

theorem atMost_trans : ∀ s t u : List α,
    atMost key s t = true → atMost key t u = true → atMost key s u = true
  | [], _, _, _, _ => rfl
  | _ :: _, [], _, h, _ => by simp [atMost] at h
  | _ :: _, _ :: _, [], _, h => by simp [atMost] at h
  | a :: as, b :: bs, c :: cs, h, h' => by
    have ih := atMost_trans as bs cs
    simp only [atMost, Bool.or_eq_true, Bool.and_eq_true, decide_eq_true_eq, beq_iff_eq]
      at h h' ⊢
    rcases h with h | ⟨h, hs⟩ <;> rcases h' with h' | ⟨h', ht⟩
    · exact Or.inl (by omega)
    · exact Or.inl (by omega)
    · exact Or.inl (by omega)
    · exact Or.inr ⟨h.trans h', ih hs ht⟩

theorem atMost_antisymm (hk : ∀ a b, key a = key b → a = b) : ∀ s t : List α,
    atMost key s t = true → atMost key t s = true → s = t
  | [], [], _, _ => rfl
  | [], _ :: _, _, h => by simp [atMost] at h
  | _ :: _, [], h, _ => by simp [atMost] at h
  | a :: as, b :: bs, h, h' => by
    have ih := atMost_antisymm hk as bs
    simp only [atMost, Bool.or_eq_true, Bool.and_eq_true, decide_eq_true_eq, beq_iff_eq] at h h'
    rcases h with h | ⟨h, hs⟩ <;> rcases h' with h' | ⟨h', ht⟩
    · omega
    · omega
    · omega
    · rw [hk a b h, ih hs ht]

end CoinPuzzles.Order
