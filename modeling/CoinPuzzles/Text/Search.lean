/-!
# Text/Search — texts inside texts

`holds` decides whether a text is part of another (`holds_iff`).  `splitAt?` cuts at the first place
of a character, if there is one (`splitAt?_eq_some`, `splitAt?_eq_none`).
-/

namespace CoinPuzzles.Text

/-- Whether a text holds another somewhere. -/
def holds (part : List Char) : List Char → Bool
  | [] => part.isEmpty
  | c :: rest => part.isPrefixOf (c :: rest) || holds part rest

/-- What stands before and after the first place of a character. -/
def splitAt? (c : Char) : List Char → Option (List Char × List Char)
  | [] => none
  | d :: rest =>
    if d == c then some ([], rest) else (splitAt? c rest).map fun (a, b) => (d :: a, b)

/-- What stands before and after the last place of a character. -/
def splitAtLast? (c : Char) (s : List Char) : Option (List Char × List Char) :=
  (splitAt? c s.reverse).map fun (a, b) => (b.reverse, a.reverse)

theorem holds_iff (part : List Char) : ∀ s : List Char, holds part s = true ↔ part <:+: s
  | [] => by simp [holds]
  | c :: rest => by simp [holds, holds_iff part rest, List.infix_cons_iff]

theorem splitAt?_eq_none {c : Char} : ∀ {s : List Char}, splitAt? c s = none ↔ c ∉ s
  | [] => by simp [splitAt?]
  | d :: rest => by
    by_cases h : d = c
    · simp [splitAt?, h]
    · simp [splitAt?, h, splitAt?_eq_none (s := rest), Ne.symm h]

/-- **A cut at the first place**: the parts and the character make up the text, and the first part
does not have the character. -/
theorem splitAt?_eq_some {c : Char} : ∀ {s a b : List Char}, splitAt? c s = some (a, b) →
    s = a ++ c :: b ∧ c ∉ a
  | [], _, _, h => nomatch h
  | d :: rest, a, b, h => by
    rw [splitAt?] at h
    split at h
    · obtain ⟨rfl, rfl⟩ := h
      simp_all
    · next hd =>
      obtain ⟨⟨a', b'⟩, h', he⟩ := Option.map_eq_some_iff.1 h
      obtain ⟨rfl, rfl⟩ := he
      obtain ⟨rfl, hc⟩ := splitAt?_eq_some h'
      have : c ≠ d := fun e => hd (by simp [e])
      simp_all

end CoinPuzzles.Text
