import CoinPuzzles.Order.Lexicographic
import Mathlib.Data.List.Sort

/-!
# Proofs/Order/Sorting — a sorted list forgets the order of its entries

Under an order that tells the entries of a list apart, lists with the same entries are sorted into
one list: `mergeSort_eq_of_perm`.  In it equal entries stand side by side, after all that are less:
`exists_eq_filter_append_replicate`.  The order of texts is such an order: `atMost_toList_antisymm`.
-/

namespace CoinPuzzles.Order

variable {α : Type} {le : α → α → Bool} {l l' : List α}

/-- **Lists with the same entries are sorted into one list.** -/
theorem mergeSort_eq_of_perm
    (trans : ∀ a b c, le a b = true → le b c = true → le a c = true)
    (total : ∀ a b, (le a b || le b a) = true)
    (antisymm : ∀ a ∈ l, ∀ b ∈ l, le a b = true → le b a = true → a = b) (h : l.Perm l') :
    l.mergeSort le = l'.mergeSort le := by
  have hl := List.mergeSort_perm l le
  have hl' := (List.mergeSort_perm l' le).trans h.symm
  exact (hl.trans hl'.symm).eq_of_pairwise
    (fun a b ha hb => antisymm a (hl.mem_iff.1 ha) b (hl'.mem_iff.1 hb))
    (List.pairwise_mergeSort trans total l) (List.pairwise_mergeSort trans total l')

/-- **Equal entries of a sorted list stand side by side**, with what is less in front of them. -/
theorem exists_eq_filter_append_replicate [DecidableEq α]
    (trans : ∀ a b c, le a b = true → le b c = true → le a c = true)
    (total : ∀ a b, (le a b || le b a) = true) (c : α) :
    ∀ {l : List α}, l.Pairwise (fun a b => le a b = true) →
      (∀ a ∈ l, ∀ b ∈ l, le a b = true → le b a = true → a = b) →
      ∃ later, c ∉ later ∧
        l = l.filter (fun a => !le c a) ++ (List.replicate (l.count c) c ++ later)
  | [], _, _ => ⟨[], List.not_mem_nil, rfl⟩
  | a :: l, hsorted, antisymm => by
    obtain ⟨hle, hsorted⟩ := List.pairwise_cons.1 hsorted
    have hrest := fun b hb d hd =>
      antisymm b (List.mem_cons_of_mem a hb) d (List.mem_cons_of_mem a hd)
    have hnone (hca : le c a = true) : l.filter (fun b => !le c b) = [] :=
      List.filter_eq_nil_iff.2 fun b hb => by simp [trans c a b hca (hle b hb)]
    have hrefl : le c c = true := by simpa using total c c
    obtain ⟨later, hlater, heq⟩ := exists_eq_filter_append_replicate trans total c hsorted hrest
    by_cases hac : a = c
    · subst hac
      refine ⟨later, hlater, ?_⟩
      rw [hnone hrefl, List.nil_append] at heq
      rw [List.filter_cons_of_neg (by simp [hrefl]), hnone hrefl, List.count_cons_self,
        List.replicate_succ, List.nil_append, List.cons_append, ← heq]
    · by_cases hca : le c a = true
      -- What comes after an entry greater than `c` is greater too.
      · have hnot : c ∉ a :: l := by
          intro hmem
          have hcl : c ∈ l := (List.mem_cons.1 hmem).resolve_left (Ne.symm hac)
          exact hac (antisymm a List.mem_cons_self c hmem (hle c hcl) hca)
        refine ⟨a :: l, hnot, ?_⟩
        rw [List.filter_cons_of_neg (by simp [hca]), hnone hca, List.count_eq_zero.2 hnot]
        rfl
      · refine ⟨later, hlater, ?_⟩
        rw [List.filter_cons_of_pos (by simpa using hca), List.count_cons_of_ne hac,
          List.cons_append, ← heq]

theorem atMost_toList_antisymm (s t : String)
    (hst : atMost Char.toNat s.toList t.toList = true)
    (hts : atMost Char.toNat t.toList s.toList = true) : s = t :=
  String.toList_inj.1 (atMost_antisymm Char.toNat (fun _ _ => Char.toNat_inj.1) _ _ hst hts)

end CoinPuzzles.Order
