import CoinPuzzles.Proofs.Program.AssemblyAtoms
import CoinPuzzles.Proofs.Program.AssemblyText
import Mathlib.Data.Nat.Find

/-!
# Proofs/Program/AssemblyLevels — how many levels a text takes

More levels change an answer only if it was that the text is too nested (`Below`), and two for each
character are enough, since every token takes a character off the text (`Settles`).  So each text
has a number of levels that it takes (`levels`), and it is refused as too nested exactly with fewer:
`readWithin_eq_tooNested_iff`.  The same induction bounds the atoms of what is read
(`atomsWithin_of_readWithin`).  The levels that a program has of its own are more than twice its
depth (`Program.two_mul_depth_lt_levels`).
-/

namespace CoinPuzzles

namespace Assembly

/-! ## More levels -/

section Below

variable {α β : Type}

/-- The second answer is the first, unless that is that the text is too nested. -/
def Below (x y : Except AssemblyError α) : Prop := x = .error .tooNested ∨ x = y

theorem Below.refl (x : Except AssemblyError α) : Below x x := .inr rfl

theorem Below.trans {x y z : Except AssemblyError α} (hxy : Below x y) (hyz : Below y z) :
    Below x z := by
  rcases hxy with h | rfl
  · exact .inl h
  · exact hyz

/-- **Two steps with more levels do no worse**, if each of them does not. -/
theorem Below.bind {x y : Except AssemblyError α} {f g : α → Except AssemblyError β}
    (h : Below x y) (hfg : ∀ a, Below (f a) (g a)) : Below (x >>= f) (y >>= g) := by
  rcases h with rfl | rfl
  · exact .inl rfl
  · cases x with
    | error e => exact .inr rfl
    | ok a => exact hfg a

theorem Below.ite {c : Bool} {x y x' y' : Except AssemblyError α} (hx : Below x x')
    (hy : Below y y') : Below (if c then x else y) (if c then x' else y') := by
  cases c
  · exact hy
  · exact hx

end Below

/-- **One more level** changes no answer but that the text is too nested. -/
theorem below_succ : ∀ levels,
    (∀ t cursor, Below (expression levels t cursor) (expression (levels + 1) t cursor)) ∧
      ∀ t cursor, Below (listTail levels t cursor) (listTail (levels + 1) t cursor) := by
  intro levels
  induction levels with
  | zero => exact ⟨fun _ _ => .inl rfl, fun _ _ => .inl rfl⟩
  | succ levels ih =>
    obtain ⟨ihe, ihl⟩ := ih
    constructor
    · intro t cursor
      rw [expression, expression]
      exact .ite (.bind (.refl _) fun _ => ihl _ _) (.refl _)
    · intro t cursor
      rw [listTail, listTail]
      refine .ite (.refl _) (.bind (ihe _ _) fun _ => .bind (.refl _) fun _ => .ite ?_ ?_)
      · exact .bind (.refl _) fun _ => .bind (ihe _ _) fun _ => .refl _
      · exact .bind (ihl _ _) fun _ => .refl _

/-- **More levels never change an answer**, but for that of too few. -/
theorem below_readWithin {m n : Nat} (h : m ≤ n) (text : String) :
    Below (readWithin m text) (readWithin n text) := by
  induction n, h using Nat.le_induction with
  | base => exact .refl _
  | succ n _ ih =>
    refine ih.trans (.bind (.refl _) fun found => ?_)
    cases found with
    | none => exact .refl _
    | some r => exact .bind ((below_succ n).1 _ _) fun _ => .refl _

/-! ## Enough levels -/

section Settles

variable {α β : Type} {P : α → Prop} {Q : β → Prop}

/-- The answer is not that the text is too nested.  What is read is as `P` says, and fewer than `n`
characters are left. -/
def Settles (P : α → Prop) (n : Nat) : Except AssemblyError (α × Cursor) → Prop
  | .ok (a, cursor) => P a ∧ cursor.rest.length < n
  | .error e => e ≠ .tooNested

theorem Settles.mono {m n : Nat} (hmn : m ≤ n) {x : Except AssemblyError (α × Cursor)}
    (h : Settles P m x) : Settles P n x := by
  cases x with
  | error e => exact h
  | ok r => exact ⟨h.1, lt_of_lt_of_le h.2 hmn⟩

/-- **Steps settle in sequence**: the second starts from what the first has read and left. -/
theorem Settles.bind {m n : Nat} {x : Except AssemblyError (α × Cursor)}
    {f : α × Cursor → Except AssemblyError (β × Cursor)} (h : Settles P n x)
    (hf : ∀ a cursor, P a → cursor.rest.length < n → Settles Q m (f (a, cursor))) :
    Settles Q m (x >>= f) := by
  cases x with
  | error e => exact h
  | ok r => exact hf r.1 r.2 h.1 h.2

end Settles

/-- What stands after a gap is no blank. -/
theorem isBlank_of_head?_drop_gapLength : ∀ {s : List Char} {inComment : Bool} {c : Char},
    (s.drop (gapLength inComment s)).head? = some c → Text.isBlank c = false
  | [], _, _, h => by cases h
  | d :: s, inComment, c, h => by
    rw [gapLength] at h
    split at h
    · exact isBlank_of_head?_drop_gapLength h
    · split at h
      · exact isBlank_of_head?_drop_gapLength h
      · split at h
        · exact isBlank_of_head?_drop_gapLength h
        · next hblank _ =>
          obtain rfl := Option.some.inj h
          exact Bool.eq_false_iff.2 hblank

theorem Cursor.length_advance (cursor : Cursor) (n : Nat) :
    (cursor.advance n).rest.length = cursor.rest.length - n := List.length_drop

/-- **A token is taken off the text**, and it is not empty. -/
theorem length_of_nextToken? {cursor after : Cursor} {t : Token}
    (h : nextToken? cursor = .ok (some (t, after))) :
    t.text ≠ [] ∧ t.text.length + after.rest.length ≤ cursor.rest.length := by
  rw [nextToken?] at h
  have hstart := cursor.length_advance (gapLength false cursor.rest)
  have hblank (c : Char) : (cursor.advance (gapLength false cursor.rest)).rest.head? = some c →
      Text.isBlank c = false := isBlank_of_head?_drop_gapLength
  generalize cursor.advance (gapLength false cursor.rest) = start at h hstart hblank
  dsimp only at h
  split at h
  · cases h
  next c rest hrest =>
  have hlength : start.rest.length = rest.length + 1 := by rw [hrest, List.length_cons]
  split at h
  · cases h
    refine ⟨List.cons_ne_nil _ _, ?_⟩
    rw [Cursor.length_advance, List.length_singleton]
    omega
  next hmark =>
  split at h
  · split at h
    · cases h
      refine ⟨List.cons_ne_nil _ _, ?_⟩
      rw [Cursor.length_advance, List.length_append, List.length_cons, List.length_singleton]
      omega
    · cases h
  · cases h
    have hclose : (c == ')') = false := by
      simp only [Bool.or_eq_true, not_or, Bool.not_eq_true] at hmark
      exact hmark.1.2
    have hends : endsWord c = false := by
      rw [endsWord, hblank c (by rw [hrest]; rfl), hclose, Bool.or_false]
    have hword : (start.rest.takeWhile fun d => !endsWord d).length ≤ start.rest.length :=
      (List.takeWhile_prefix _).length_le
    constructor
    · rw [hrest, List.takeWhile_cons_of_pos (by rw [hends]; rfl)]
      exact List.cons_ne_nil _ _
    · rw [Cursor.length_advance]
      dsimp only
      omega

theorem nextToken?_ne_tooNested (cursor : Cursor) : nextToken? cursor ≠ .error .tooNested := by
  intro h
  rw [nextToken?] at h
  dsimp only at h
  split at h
  · cases h
  · split at h
    · cases h
    · split at h
      · split at h <;> cases h
      · cases h

theorem settles_nextInList {n size : Nat} {cursor : Cursor} (h : cursor.rest.length ≤ n)
    (hn : n ≤ size) : Settles (Token.Within size) n (nextInList cursor) := by
  rw [nextInList]
  cases hnext : nextToken? cursor with
  | error e =>
    intro he
    subst he
    exact nextToken?_ne_tooNested cursor hnext
  | ok found =>
    cases found with
    | none => exact AssemblyError.noConfusion
    | some r =>
      obtain ⟨t, after⟩ := r
      obtain ⟨hne, hlength⟩ := length_of_nextToken? hnext
      have hpos := List.length_pos_iff.2 hne
      exact ⟨⟨hne, by omega⟩, show after.rest.length < n by omega⟩

theorem atomOf_ne_tooNested (t : Token) : atomOf t ≠ .error .tooNested := by
  intro h
  rw [atomOf] at h
  split at h
  · cases h
  · split at h
    · dsimp only at h
      split at h <;> cases h
    · split at h <;> cases h

/-- **An atom is bounded by the text of its token**, which takes nothing more from what is left. -/
theorem settles_atomOf {n size : Nat} {t : Token} (ht : t.Within size) {cursor : Cursor}
    (h : cursor.rest.length < n) :
    Settles (AtomsWithin size) n ((atomOf t).map (·, cursor)) := by
  cases hatom : atomOf t with
  | error e =>
    intro he
    subst he
    exact atomOf_ne_tooNested t hatom
  | ok p => exact ⟨ht.atomsWithin_atomOf hatom, h⟩

/-- **Two levels for each character are enough**, and the atoms are no longer than the text allows.
An expression has its first token behind it, and takes one level more than what follows. -/
theorem settles_reader (size : Nat) : ∀ levels,
    (∀ n t cursor, t.Within size → cursor.rest.length < n → n ≤ size → 2 * n ≤ levels + 1 →
      Settles (AtomsWithin size) n (expression levels t cursor)) ∧
    ∀ n t cursor, t.Within size → cursor.rest.length < n → n ≤ size → 2 * n ≤ levels →
      Settles (AtomsWithin size) n (listTail levels t cursor) := by
  intro levels
  induction levels with
  | zero => exact ⟨fun _ _ _ _ _ _ _ => by omega, fun _ _ _ _ _ _ _ => by omega⟩
  | succ levels ih =>
    obtain ⟨ihe, ihl⟩ := ih
    have hsub {n : Nat} (hn : n ≤ size) : n - 1 ≤ size := (Nat.sub_le n 1).trans hn
    constructor
    · intro n t cursor ht hlength hn hlevels
      rw [expression]
      split
      · have hnext := settles_nextInList (Nat.le_sub_one_of_lt hlength) (hsub hn)
        exact hnext.bind fun t c ht hc =>
          (ihl (n - 1) t c ht hc (hsub hn) (by omega)).mono (Nat.sub_le n 1)
      · exact settles_atomOf ht hlength
    · intro n t cursor ht hlength hn hlevels
      rw [listTail]
      split
      · exact ⟨atomsWithin_nil, hlength⟩
      refine (ihe n t cursor ht hlength hn (by omega)).bind fun first c₁ hfirst hc₁ => ?_
      have hnext := settles_nextInList (Nat.le_sub_one_of_lt hc₁) (hsub hn)
      refine hnext.bind fun t c₂ ht hc₂ => ?_
      dsimp only
      split
      · refine (settles_nextInList (Nat.le_of_lt hc₂) (hsub hn)).bind fun t c₃ ht hc₃ => ?_
        refine (ihe (n - 1) t c₃ ht hc₃ (hsub hn) (by omega)).bind fun last c₄ hlast hc₄ => ?_
        refine (settles_nextInList (Nat.le_of_lt hc₄) (hsub hn)).bind fun t c₅ _ hc₅ => ?_
        dsimp only
        split
        · exact ⟨hfirst.pair hlast, lt_of_lt_of_le hc₅ (Nat.sub_le n 1)⟩
        · exact AssemblyError.noConfusion
      · refine (ihl (n - 1) t c₂ ht hc₂ (hsub hn) (by omega)).bind fun rest c₃ hrest hc₃ => ?_
        exact ⟨hfirst.pair hrest, lt_of_lt_of_le hc₃ (Nat.sub_le n 1)⟩

/-! ## The levels of a text -/

/-- With two levels for each character a text is not too nested, and its atoms are no longer than
the text allows. -/
theorem readWithin_settles {levels : Nat} {text : String} (h : 2 * text.length ≤ levels) :
    readWithin levels text ≠ .error .tooNested ∧
      ∀ p, readWithin levels text = .ok p → AtomsWithin text.length p := by
  rw [readWithin]
  cases hnext : nextToken? ⟨text.toList, 0⟩ with
  | error e =>
    refine ⟨fun he => ?_, fun p hp => absurd hp Outcome.error_ne_ok⟩
    obtain rfl := Except.error.inj he
    exact nextToken?_ne_tooNested _ hnext
  | ok found =>
    cases found with
    | none =>
      refine ⟨fun he => ?_, fun p hp => absurd hp Outcome.error_ne_ok⟩
      exact AssemblyError.noConfusion (Except.error.inj he)
    | some r =>
      obtain ⟨t, cursor⟩ := r
      obtain ⟨hne, hlength⟩ := length_of_nextToken? hnext
      have hpos := List.length_pos_iff.2 hne
      rw [String.length_toList] at hlength
      have hsettles := (settles_reader text.length levels).1 text.length t cursor
        ⟨hne, by omega⟩ (by omega) (le_refl _) (by omega)
      change (expression levels t cursor >>= _) ≠ _ ∧
        ∀ p, (expression levels t cursor >>= _) = _ → _
      cases hread : expression levels t cursor with
      | error e =>
        rw [hread] at hsettles
        exact ⟨fun he => hsettles (Except.error.inj he),
          fun p hp => absurd hp Outcome.error_ne_ok⟩
      | ok result =>
        rw [hread] at hsettles
        refine ⟨Outcome.ok_ne_error, fun p hp => ?_⟩
        obtain rfl := Except.ok.inj hp
        exact hsettles.1

/-- **With two levels for each character no text is too nested.** -/
theorem readWithin_ne_tooNested {levels : Nat} {text : String} (h : 2 * text.length ≤ levels) :
    readWithin levels text ≠ .error .tooNested := (readWithin_settles h).1

/-- **The atoms of what is read are no longer than the text allows**, with however many levels. -/
theorem atomsWithin_of_readWithin {levels : Nat} {text : String} {p : Program}
    (h : readWithin levels text = .ok p) : AtomsWithin text.length p := by
  rcases below_readWithin (le_max_left levels (2 * text.length)) text with hnested | heq
  · exact absurd (hnested.symm.trans h) Outcome.error_ne_ok
  · exact (readWithin_settles (le_max_right levels (2 * text.length))).2 p (heq.symm.trans h)

/-- The number of levels that a text takes, the least with which it is not too nested. -/
def levels (text : String) : Nat :=
  Nat.find (⟨_, readWithin_ne_tooNested (le_refl (2 * text.length))⟩ :
    ∃ n, readWithin n text ≠ .error .tooNested)

theorem levels_le (text : String) : levels text ≤ 2 * text.length :=
  Nat.find_min' _ (readWithin_ne_tooNested (le_refl _))

/-- **A text is refused as too nested exactly with fewer levels than it takes.** -/
theorem readWithin_eq_tooNested_iff {n : Nat} {text : String} :
    readWithin n text = .error .tooNested ↔ n < levels text := by
  refine ⟨fun h => ?_, fun h => not_not.1 (Nat.find_min _ h)⟩
  rw [← not_le]
  intro hle
  have hread : readWithin (levels text) text ≠ .error .tooNested := Nat.find_spec
    (⟨_, readWithin_ne_tooNested (le_refl (2 * text.length))⟩ :
      ∃ n, readWithin n text ≠ .error .tooNested)
  exact hread ((below_readWithin hle text).elim id fun heq => heq.trans h)

end Assembly

/-- Each pair on the way to a leaf takes two levels. -/
theorem Program.two_mul_depth_lt_levels : ∀ p : Program, 2 * p.depth < p.levels
  | .atom [] => by decide
  | .atom (_ :: _) => Nat.zero_lt_one
  | .pair p q => by
    have hp := two_mul_depth_lt_levels p
    have hq := two_mul_depth_lt_levels q
    rw [Program.depth, Program.levels]
    omega

end CoinPuzzles
