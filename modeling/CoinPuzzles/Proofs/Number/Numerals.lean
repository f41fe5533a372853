import CoinPuzzles.Number.Numeral
import CoinPuzzles.Proofs.Outcome
import CoinPuzzles.Proofs.Text.Trimming
import Mathlib.Algebra.Group.Nat.Defs

/-!
# Proofs/Number/Numerals — which texts are numerals

The grammar of numerals, apart from the reader: a run of digits has single low lines between them
(`DigitRun`), and a numeral is such a run with a sign in front and blanks around (`Spells`).  No
digit and no sign is a blank, so what the reader trims is what the grammar sets apart.  Main
statements: the reader takes exactly the numerals (`read_eq_ok_iff`), and an integer is written
exactly if it stays below the power of ten that has one digit too many (`write_eq_error_iff`).
-/

namespace CoinPuzzles.Numeral

/-! ## Runs of digits -/

/-- Decimal digits of any script, single low lines between them skipped. -/
inductive DigitRun : List Char → List Nat → Prop
  | last {c : Char} {d : Nat} (h : Text.digit? c = some d) : DigitRun [c] [d]
  | digit {c : Char} {d : Nat} {s : List Char} {ds : List Nat} (h : Text.digit? c = some d)
      (rest : DigitRun s ds) : DigitRun (c :: s) (d :: ds)
  | lowLine {c : Char} {d : Nat} {s : List Char} {ds : List Nat} (h : Text.digit? c = some d)
      (rest : DigitRun s ds) : DigitRun (c :: '_' :: s) (d :: ds)

section Reader

variable {c : Char} {d : Nat} {s : List Char}

theorem takeDigits_digit (h : Text.digit? c = some d) (inside : Bool) (s : List Char) :
    takeDigits inside (c :: s) = (takeDigits true s).map fun (ds, r) => (d :: ds, r) := by
  rw [takeDigits, h]

/-- **A low line stands between digits only**: one before it and one behind. -/
theorem takeDigits_lowLine (s : List Char) : takeDigits true ('_' :: s) =
    if (s.head?.bind Text.digit?).isSome then takeDigits false s else none := by
  rw [takeDigits, show Text.digit? '_' = none by decide]
  rfl

theorem takeDigits_ne_nil (h : (Text.digit? c).isSome) {inside : Bool} {ds : List Nat}
    {r : List Char} (htake : takeDigits inside (c :: s) = some (ds, r)) : ds ≠ [] := by
  obtain ⟨d, hd⟩ := Option.isSome_iff_exists.1 h
  rw [takeDigits_digit hd] at htake
  obtain ⟨_, -, heq⟩ := Option.map_eq_some_iff.1 htake
  obtain ⟨rfl, -⟩ := Prod.mk.inj heq
  exact List.cons_ne_nil _ _

end Reader

namespace DigitRun

variable {s : List Char} {ds : List Nat}

theorem head (h : DigitRun s ds) : ∃ c r, s = c :: r ∧ (Text.digit? c).isSome := by
  cases h with
  | last h => exact ⟨_, _, rfl, by rw [h]; rfl⟩
  | digit h _ => exact ⟨_, _, rfl, by rw [h]; rfl⟩
  | lowLine h _ => exact ⟨_, _, rfl, by rw [h]; rfl⟩

/-- A run of digits ends with one, so no low line stands at its end. -/
theorem getLast (h : DigitRun s ds) :
    ∃ hne : s ≠ [], (Text.digit? (s.getLast hne)).isSome := by
  induction h with
  | last h => exact ⟨List.cons_ne_nil _ _, by rw [List.getLast_singleton, h]; rfl⟩
  | digit _ _ ih =>
    obtain ⟨hne, hlast⟩ := ih
    exact ⟨List.cons_ne_nil _ _, by rwa [List.getLast_cons hne]⟩
  | lowLine _ _ ih =>
    obtain ⟨hne, hlast⟩ := ih
    exact ⟨List.cons_ne_nil _ _, by
      rwa [List.getLast_cons (List.cons_ne_nil _ _), List.getLast_cons hne]⟩

/-- The reader of digits takes a run whole. -/
theorem takeDigits_eq (h : DigitRun s ds) : ∀ inside, takeDigits inside s = some (ds, []) := by
  induction h with
  | last h =>
    intro inside
    rw [takeDigits_digit h]
    rfl
  | digit h _ ih =>
    intro inside
    rw [takeDigits_digit h, ih]
    rfl
  | lowLine h rest ih =>
    intro inside
    obtain ⟨c', r, rfl, hc'⟩ := rest.head
    rw [takeDigits_digit h, takeDigits_lowLine, List.head?_cons, Option.bind_some, if_pos hc', ih]
    rfl

end DigitRun

/-- **What the reader of digits takes whole is a run.** -/
theorem digitRun_of_takeDigits : ∀ {s : List Char} {ds : List Nat}, ds ≠ [] →
    takeDigits false s = some (ds, []) → DigitRun s ds
  | [], _, hne, h => absurd (Prod.mk.inj (Option.some.inj h)).1.symm hne
  | c :: s, ds, hne, h => by
    cases hc : Text.digit? c with
    | none =>
      rw [takeDigits, hc] at h
      dsimp only at h
      split at h <;> cases h
    | some d =>
      rw [takeDigits_digit hc] at h
      obtain ⟨⟨ds, r⟩, htake, heq⟩ := Option.map_eq_some_iff.1 h
      obtain ⟨rfl, rfl⟩ := Prod.mk.inj heq
      match s, htake with
      | [], htake =>
        obtain ⟨rfl, -⟩ := Prod.mk.inj (Option.some.inj htake)
        exact .last hc
      | c' :: s, htake =>
        cases hc' : Text.digit? c' with
        | some d' =>
          -- a digit is read the same whether or not one stands before it
          have hrest : takeDigits false (c' :: s) = some (ds, []) := by
            rwa [takeDigits_digit hc'] at htake ⊢
          exact .digit hc (digitRun_of_takeDigits
            (takeDigits_ne_nil (by rw [hc']; rfl) hrest) hrest)
        | none =>
          by_cases hlow : c' = '_'
          · subst hlow
            rw [takeDigits_lowLine] at htake
            split at htake
            · next hhead =>
              cases s with
              | nil => cases hhead
              | cons c'' s =>
                exact .lowLine hc (digitRun_of_takeDigits (takeDigits_ne_nil hhead htake) htake)
            · cases htake
          · rw [takeDigits, hc'] at htake
            dsimp only at htake
            rw [if_neg (by simpa using hlow)] at htake
            cases htake

/-! ## Signs and blanks -/

/-- A sign or none, and what it multiplies with. -/
inductive Sign : List Char → Int → Prop
  | none : Sign [] 1
  | plus : Sign ['+'] 1
  | minus : Sign ['-'] (-1)

theorem isFieldBlank_of_digit? {c : Char} (h : (Text.digit? c).isSome) :
    isFieldBlank c = false := by
  obtain ⟨z, hz, hmem⟩ : ∃ z ∈ Text.zeroDigits, z ≤ c.toNat ∧ c.toNat < z + 10 := by
    rw [Text.digit?, Option.isSome_map, List.find?_isSome] at h
    simpa only [Bool.and_eq_true, decide_eq_true_eq] using h
  have hapart : ∀ z ∈ Text.zeroDigits, ∀ k < 10, isFieldBlank (Char.ofNat (z + k)) = false := by
    decide +kernel
  have hc := hapart z hz (c.toNat - z) (by omega)
  rwa [Nat.add_sub_cancel' hmem.1, Char.ofNat_toNat] at hc

/-- **A sign is taken as what it is worth**, if a digit follows it. -/
theorem takeSign_of_sign {sign body : List Char} {σ : Int} (h : Sign sign σ)
    (hbody : ∃ c r, body = c :: r ∧ (Text.digit? c).isSome) :
    takeSign (sign ++ body) = (decide (σ < 0), body) := by
  cases h with
  | none =>
    obtain ⟨c, r, rfl, hc⟩ := hbody
    rw [List.nil_append, takeSign.eq_def]
    split
    · next heq =>
      obtain ⟨rfl, -⟩ := List.cons.inj heq
      exact absurd hc (by decide)
    · next heq =>
      obtain ⟨rfl, -⟩ := List.cons.inj heq
      exact absurd hc (by decide)
    · rfl
  | plus => rfl
  | minus => rfl

theorem exists_sign (s : List Char) : ∃ sign σ, Sign sign σ ∧ s = sign ++ (takeSign s).2 ∧
    (takeSign s).1 = decide (σ < 0) := by
  rw [takeSign.eq_def]
  split
  · exact ⟨['-'], -1, .minus, rfl, rfl⟩
  · exact ⟨['+'], 1, .plus, rfl, rfl⟩
  · exact ⟨[], 1, .none, rfl, rfl⟩

/-! ## Numerals -/

/-- **The text is a numeral for the integer**: a run of at most as many digits as the limit, with a
sign in front and blanks around. -/
def Spells (text : List Char) (n : Int) : Prop :=
  ∃ lead sign body trail ds σ, text = lead ++ ((sign ++ body) ++ trail) ∧
    (∀ c ∈ lead, isFieldBlank c = true) ∧ (∀ c ∈ trail, isFieldBlank c = true) ∧ Sign sign σ ∧
    DigitRun body ds ∧ ds.length ≤ digitLimit ∧ n = σ * ofDigits 10 ds

/-- **What is read is spelled**: the blanks, the sign and the run are told off the text one by
one. -/
theorem spells_of_read {text : String} {n : Int} (h : read text = .ok n) :
    Spells text.toList n := by
  obtain ⟨lead, trail, htext, hlead, htrail⟩ :=
    Text.exists_dropAround (p := isFieldBlank) text.toList
  obtain ⟨sign, σ, hsign, hsigned, hnegative⟩ := exists_sign (trimField text.toList)
  rw [read] at h
  dsimp only at h
  split at h
  · cases h
  · cases h
  · next ds rest hne htake =>
    split at h
    · cases h
    next hlimit =>
    split at h
    · next hrest =>
      obtain rfl := List.isEmpty_iff.1 hrest
      refine ⟨lead, sign, _, trail, ds, σ, ?_, hlead, htrail, hsign,
        digitRun_of_takeDigits hne htake, Nat.not_lt.1 hlimit, ?_⟩
      · rw [← hsigned]
        exact htext
      · obtain rfl := Except.ok.inj h
        rw [hnegative]
        cases hsign <;> simp
    · cases h

/-- **What is spelled is read**: the sign and the run are found in what trimming leaves. -/
theorem read_of_spells {text : String} {n : Int} (h : Spells text.toList n) :
    read text = .ok n := by
  obtain ⟨lead, sign, body, trail, ds, σ, htext, hlead, htrail, hsign, hbody, hlimit, rfl⟩ := h
  obtain ⟨hne, hlast⟩ := hbody.getLast
  have htrim : trimField text.toList = sign ++ body := by
    rw [htext]
    refine Text.dropAround_append hlead htrail (List.append_ne_nil_of_right_ne_nil _ hne) ?_ ?_
    · obtain ⟨c, r, rfl, hc⟩ := hbody.head
      cases hsign with
      | none => exact isFieldBlank_of_digit? hc
      | plus => exact show isFieldBlank '+' = false by decide
      | minus => exact show isFieldBlank '-' = false by decide
    · rw [List.getLast_append_of_ne_nil _ hne]
      exact isFieldBlank_of_digit? hlast
  have hds : ds ≠ [] := by
    obtain ⟨c, r, rfl, hc⟩ := hbody.head
    exact takeDigits_ne_nil hc (hbody.takeDigits_eq false)
  rw [read, htrim, takeSign_of_sign hsign hbody.head]
  dsimp only
  rw [hbody.takeDigits_eq]
  obtain ⟨d, ds, rfl⟩ := List.exists_cons_of_ne_nil hds
  dsimp only
  rw [if_neg (Nat.not_lt.2 hlimit), List.isEmpty_nil, if_pos rfl]
  cases hsign <;> simp

/-- **The reader takes exactly the numerals**, each for its integer. -/
theorem read_eq_ok_iff {text : String} {n : Int} : read text = .ok n ↔ Spells text.toList n :=
  ⟨spells_of_read, read_of_spells⟩

/-- A byte string is read as the text of its characters, if all of them are ASCII. -/
theorem readBytes_eq_ok_iff {b : Bytes} {n : Int} :
    readBytes b = .ok n ↔ ∃ s, b.toAscii? = some s ∧ Spells s.toList n := by
  rw [readBytes]
  cases b.toAscii? with
  | none => exact iff_of_false Outcome.error_ne_ok (by simp)
  | some s =>
    simp only [Outcome.mapError_eq_ok_iff, read_eq_ok_iff, Option.some.injEq, exists_eq_left']

/-! ## Integers that have no numeral -/

/-- A natural number has more digits than the limit exactly from its power of ten on. -/
theorem digitLimit_lt_length_iff {n : Nat} :
    digitLimit < (toString n).length ↔ 10 ^ digitLimit ≤ n := by
  have hlimit : 0 < digitLimit := by decide
  rw [← not_iff_not, Nat.not_lt, Nat.not_le]
  exact Nat.length_repr_le_iff hlimit

/-- **An integer is written exactly if it has no more digits than can be shown**, and by its
numeral. -/
theorem write_eq_ok_iff {n : Int} {s : String} :
    write n = .ok s ↔ n.natAbs < 10 ^ digitLimit ∧ toString n = s := by
  rw [← Nat.not_le, ← digitLimit_lt_length_iff, write]
  split
  · next h => exact iff_of_false Outcome.error_ne_ok fun hs => hs.1 h
  · next h => exact ⟨fun hs => ⟨h, Except.ok.inj hs⟩, fun hs => congrArg Except.ok hs.2⟩

/-- **An integer has no numeral exactly if it has too many digits.** -/
theorem write_eq_error_iff {n : Int} {e : NumeralError} :
    write n = .error e ↔ 10 ^ digitLimit ≤ n.natAbs ∧ e = .tooLongToWrite := by
  rw [← digitLimit_lt_length_iff, write]
  split
  · next h => exact ⟨fun he => ⟨h, (Except.error.inj he).symm⟩, fun he => congrArg _ he.2.symm⟩
  · next h => exact iff_of_false Outcome.ok_ne_error fun he => h he.1

end CoinPuzzles.Numeral
