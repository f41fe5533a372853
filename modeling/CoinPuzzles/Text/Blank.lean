/-!
# Text/Blank — blank characters and trimming

Two classes of blanks are in use: the Unicode white space that surrounds a field, and the six ASCII
blanks that may separate the bytes of a hex text.  `trim` drops the former from both ends;
`head?_trim` says that nothing blank is left in front.
-/

namespace CoinPuzzles.Text

/-- The white space of Unicode, the four information separators U+001C to U+001F included. -/
def isBlank (c : Char) : Bool :=
  let n := c.toNat
  (0x09 ≤ n && n ≤ 0x0D) || (0x1C ≤ n && n ≤ 0x20) || n == 0x85 || n == 0xA0 || n == 0x1680 ||
    (0x2000 ≤ n && n ≤ 0x200A) || n == 0x2028 || n == 0x2029 || n == 0x202F || n == 0x205F ||
    n == 0x3000

/-- Space, tab, line feed, vertical tab, form feed and carriage return. -/
def isAsciiBlank (c : Char) : Bool :=
  let n := c.toNat
  (0x09 ≤ n && n ≤ 0x0D) || n == 0x20

theorem isBlank_of_isAsciiBlank {c : Char} (h : isAsciiBlank c = true) : isBlank c = true := by
  simp only [isAsciiBlank, isBlank, Bool.or_eq_true, Bool.and_eq_true, decide_eq_true_eq,
    beq_iff_eq] at h ⊢
  omega

/-- Drops the elements that satisfy `p` from the end of a list. -/
def dropEndWhile {α : Type} (p : α → Bool) : List α → List α
  | [] => []
  | a :: as =>
    match dropEndWhile p as with
    | [] => if p a then [] else [a]
    | rest => a :: rest

/-- Drops the elements that satisfy `p` from both ends. -/
def dropAround {α : Type} (p : α → Bool) (as : List α) : List α :=
  dropEndWhile p (as.dropWhile p)

/-- The text without the blanks around it. -/
def trim (s : List Char) : List Char := dropAround isBlank s

theorem dropEndWhile_cons_of_neg {α : Type} {p : α → Bool} {a : α} (as : List α)
    (h : p a = false) : dropEndWhile p (a :: as) = a :: dropEndWhile p as := by
  rw [dropEndWhile]
  split
  · next hr => simp [h, hr]
  · rfl

theorem head?_dropAround {α : Type} (p : α → Bool) (as : List α) :
    ∀ a, (dropAround p as).head? = some a → p a = false := by
  induction as with
  | nil => intro a h; simp [dropAround, dropEndWhile] at h
  | cons b bs ih =>
    intro a h
    by_cases hb : p b = true
    · exact ih a (by simpa [dropAround, List.dropWhile_cons, hb] using h)
    · have hb' : p b = false := by simpa using hb
      rw [dropAround, List.dropWhile_cons, if_neg hb, dropEndWhile_cons_of_neg _ hb'] at h
      simp only [List.head?_cons, Option.some.injEq] at h
      exact h ▸ hb'

/-- **No blank is left in front of a trimmed text.** -/
theorem head?_trim (s : List Char) : ∀ c, (trim s).head? = some c → isBlank c = false :=
  head?_dropAround isBlank s

theorem dropEndWhile_eq_self {α : Type} {p : α → Bool} : ∀ {as : List α},
    (∀ a ∈ as, p a = false) → dropEndWhile p as = as
  | [], _ => rfl
  | a :: as, h => by
    rw [dropEndWhile_cons_of_neg as (h a (by simp)),
      dropEndWhile_eq_self fun b hb => h b (List.mem_cons_of_mem a hb)]

/-- A text without blanks is its own trimmed form. -/
theorem trim_eq_self {s : List Char} (h : ∀ c ∈ s, isBlank c = false) : trim s = s := by
  have hd : s.dropWhile isBlank = s := by
    cases s with
    | nil => rfl
    | cons c r => rw [List.dropWhile_cons, if_neg (by simp [h c (by simp)])]
  rw [trim, dropAround, hd, dropEndWhile_eq_self h]

end CoinPuzzles.Text
