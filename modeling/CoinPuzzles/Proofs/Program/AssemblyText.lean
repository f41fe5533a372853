import CoinPuzzles.Program.Assembly
import CoinPuzzles.Proofs.Bytes.HexDigits
import CoinPuzzles.Proofs.Text.Trimming

/-!
# Proofs/Program/AssemblyText — programs written as assembly text

`Writes s p` says, without the reader, that the text `s` is the program `p` in full: each pair in
brackets with a dot between its halves, the empty atom as a pair of brackets, any other atom as a
hexadecimal token, and blanks wherever they may stand.  The reader takes such a text as its program
if it has levels enough for it, and else refuses it as too nested: `Writes.readWithin_eq`.
-/

namespace CoinPuzzles

/-- The number of levels that reading the text of a program takes. -/
def Program.levels : Program → Nat
  | .atom [] => 2
  | .atom (_ :: _) => 1
  | .pair p q => max p.levels q.levels + 2

namespace Assembly

/-! ## Texts of programs -/

/-- Nothing but blanks. -/
def IsGap (s : List Char) : Prop := ∀ c ∈ s, Text.isBlank c = true

instance (s : List Char) : Decidable (IsGap s) :=
  List.decidableBAll (fun c => Text.isBlank c = true) s

/-- The digits spell the byte string, with or without a zero in front. -/
structure SpellsBytes (digits : List Char) (b : Bytes) : Prop where
  isHexDigit {c : Char} (h : c ∈ digits) : Bytes.isHexDigit c = true
  hexPairs?_eq : Bytes.hexPairs? digits = some b ∨ Bytes.hexPairs? ('0' :: digits) = some b

/-- The text is the program, written in full. -/
inductive Writes : List Char → Program → Prop where
  /-- The empty atom is a pair of brackets. -/
  | nil {gap : List Char} (hgap : IsGap gap) : Writes ('(' :: (gap ++ [')'])) .nil
  /-- Another atom is a hexadecimal token. -/
  | atom {x : Char} {digits : List Char} {b : Bytes} (hx : x = 'x' ∨ x = 'X') (hb : b ≠ [])
    (hdigits : SpellsBytes digits b) : Writes ('0' :: x :: digits) (.atom b)
  /-- A pair is its two halves in brackets, with a dot between blanks. -/
  | pair {s t before left right after : List Char} {p q : Program} (hs : Writes s p)
    (ht : Writes t q) (hbefore : IsGap before) (hleft : IsGap left) (hleft' : left ≠ [])
    (hright : IsGap right) (hright' : right ≠ []) (hafter : IsGap after) :
    Writes ('(' :: (before ++ (s ++ (left ++ '.' :: (right ++ (t ++ (after ++ [')'])))))))
      (.pair p q)

/-! ## Single tokens -/

/-- The text is at its end, or goes on with a character that ends a word. -/
def EndsWord (rest : List Char) : Prop := ∀ c, rest.head? = some c → endsWord c = true

theorem endsWord_gap {gap : List Char} (hgap : IsGap gap) (hne : gap ≠ []) (rest : List Char) :
    EndsWord (gap ++ rest) := by
  obtain ⟨c, gap, rfl⟩ := List.exists_cons_of_ne_nil hne
  intro d hd
  obtain rfl := Option.some.inj hd
  rw [endsWord, hgap c List.mem_cons_self, Bool.true_or]

/-- A word ends before a closing bracket, with a gap between them or without. -/
theorem endsWord_close {gap : List Char} (hgap : IsGap gap) (rest : List Char) :
    EndsWord (gap ++ ')' :: rest) := by
  cases gap with
  | nil =>
    intro d hd
    obtain rfl := Option.some.inj hd
    rfl
  | cons c gap => exact endsWord_gap hgap (List.cons_ne_nil c gap) _

theorem gapLength_append {c : Char} {gap : List Char} (hgap : IsGap gap)
    (hblank : Text.isBlank c = false) (hcomment : c ≠ ';') (rest : List Char) :
    gapLength false (gap ++ c :: rest) = gap.length := by
  induction gap with
  | nil => simp [gapLength, hblank, hcomment]
  | cons d gap ih =>
    rw [IsGap, List.forall_mem_cons] at hgap
    simp [gapLength, hgap.1, ih hgap.2]

theorem advance_append (s rest : List Char) (offset : Nat) :
    Cursor.advance ⟨s ++ rest, offset⟩ s.length = ⟨rest, offset + s.length⟩ := by
  rw [Cursor.advance, List.drop_left]

/-- A bracket or a dot is a token of its own. -/
theorem nextToken?_mark {c : Char} (hc : c = '(' ∨ c = ')' ∨ c = '.') {gap : List Char}
    (hgap : IsGap gap) (rest : List Char) (offset : Nat) :
    nextToken? ⟨gap ++ c :: rest, offset⟩ =
      .ok (some (⟨[c], offset + gap.length⟩, ⟨rest, offset + gap.length + 1⟩)) := by
  have hblank : Text.isBlank c = false ∧ c ≠ ';' := by
    rcases hc with rfl | rfl | rfl <;> decide
  have hmark : (c == '(' || c == ')' || c == '.') = true := by
    rcases hc with rfl | rfl | rfl <;> decide
  rw [nextToken?, gapLength_append hgap hblank.1 hblank.2, advance_append]
  dsimp only
  rw [if_pos hmark]
  rfl

/-- The characters that start a token of their own, or none. -/
def startsWord (c : Char) : Bool :=
  !(endsWord c || c == ';' || c == '(' || c == '.' || c == '\x22' || c == '\x27')

/-- A word is a token up to the character that ends it. -/
theorem nextToken?_word {c : Char} {word gap rest : List Char} (hc : startsWord c = true)
    (hword : ∀ d ∈ word, endsWord d = false) (hgap : IsGap gap) (hrest : EndsWord rest)
    (offset : Nat) :
    nextToken? ⟨gap ++ (c :: word ++ rest), offset⟩ =
      .ok (some (⟨c :: word, offset + gap.length⟩,
        ⟨rest, offset + gap.length + (c :: word).length⟩)) := by
  simp only [startsWord, Bool.not_eq_true', Bool.or_eq_false_iff, beq_eq_false_iff_ne] at hc
  obtain ⟨⟨⟨⟨⟨hends, hcomment⟩, hopen⟩, hdot⟩, hdouble⟩, hsingle⟩ := hc
  have hends' := hends
  simp only [endsWord, Bool.or_eq_false_iff, beq_eq_false_iff_ne] at hends'
  have htake : (c :: word ++ rest).takeWhile (fun d => !endsWord d) = c :: word := by
    rw [List.takeWhile_append_of_pos]
    · cases rest with
      | nil => rw [List.takeWhile_nil, List.append_nil]
      | cons d rest => rw [List.takeWhile_cons_of_neg (by simp [hrest d rfl]), List.append_nil]
    · intro d hd
      rcases List.mem_cons.1 hd with rfl | hd
      · rw [hends, Bool.not_false]
      · rw [hword d hd, Bool.not_false]
  have hgapLength : gapLength false (gap ++ (c :: word ++ rest)) = gap.length :=
    gapLength_append hgap hends'.1 hcomment (word ++ rest)
  rw [nextToken?, hgapLength, advance_append]
  dsimp only [List.cons_append]
  rw [if_neg (by simp [hopen, hends'.2, hdot]), if_neg (by simp [hdouble, hsingle]),
    ← List.cons_append, htake, advance_append]

/-- Inside a list the next token is the next token, if there is one. -/
theorem nextInList_of_token {cursor : Cursor} {r : Token × Cursor}
    (h : nextToken? cursor = .ok (some r)) : nextInList cursor = .ok r := by
  rw [nextInList, h]
  rfl

/-! ## Hexadecimal tokens -/

theorem endsWord_of_isHexDigit {c : Char} (h : Bytes.isHexDigit c = true) : endsWord c = false := by
  have hclose : (c == ')') = false := by
    rw [beq_eq_false_iff_ne]
    rintro rfl
    revert h
    decide
  rw [endsWord, Bytes.isBlank_of_isHexDigit h, hclose, Bool.or_false]

/-- A number of digits that is odd is made even. -/
theorem SpellsBytes.hexPairs?_padded {digits : List Char} {b : Bytes} (h : SpellsBytes digits b) :
    Bytes.hexPairs? (if digits.length % 2 = 1 then '0' :: digits else digits) = some b := by
  obtain hpairs | hpairs := h.hexPairs?_eq
  · have hlength := Bytes.length_of_digits (fun _ hc => h.isHexDigit hc) hpairs
    rw [if_neg (by omega), hpairs]
  · have hall : ∀ c ∈ '0' :: digits, Bytes.isHexDigit c = true := by
      rw [List.forall_mem_cons]
      exact ⟨by decide, fun c hc => h.isHexDigit hc⟩
    have hlength := Bytes.length_of_digits hall hpairs
    rw [List.length_cons] at hlength
    rw [if_pos (by omega), hpairs]

/-- A marked text is no numeral. -/
theorem read_marked {x : Char} (hx : x = 'x' ∨ x = 'X') {digits : List Char}
    (hdigits : ∀ c ∈ digits, Text.isBlank c = false) :
    Numeral.read (String.ofList ('0' :: x :: digits)) =
      .error (.invalid (String.ofList ('0' :: x :: digits))) := by
  have hx' : Text.isBlank x = false ∧ Text.digit? x = none ∧ (x == '_') = false := by
    rcases hx with rfl | rfl <;> decide
  have hfield {c : Char} (hc : Text.isBlank c = false) : Numeral.isFieldBlank c = false := by
    have hascii : Text.isAsciiBlank c = false :=
      Bool.eq_false_iff.2 fun h => Bool.eq_false_iff.1 hc (Text.isBlank_of_isAsciiBlank h)
    rw [Numeral.isFieldBlank, hascii, hc, Bool.and_false, Bool.or_false]
  have htrim : Numeral.trimField ('0' :: x :: digits) = '0' :: x :: digits := by
    refine Text.dropAround_eq_self fun c hc => hfield ?_
    rcases List.mem_cons.1 hc with rfl | hc
    · decide
    · rcases List.mem_cons.1 hc with rfl | hc
      · exact hx'.1
      · exact hdigits c hc
  have htake : Numeral.takeDigits false ('0' :: x :: digits) = some ([0], x :: digits) := by
    have hzero : Text.digit? '0' = some 0 := by decide
    rw [Numeral.takeDigits, hzero]
    dsimp only
    rw [Numeral.takeDigits, hx'.2.1]
    dsimp only
    rw [if_neg (by simp [hx'.2.2])]
    rfl
  have hsign : Numeral.takeSign ('0' :: x :: digits) = (false, '0' :: x :: digits) := rfl
  rw [Numeral.read, String.toList_ofList, htrim, hsign]
  dsimp only
  rw [htake]
  rfl

/-- **A hexadecimal token is the atom that its digits spell.** -/
theorem atomOf_marked {x : Char} (hx : x = 'x' ∨ x = 'X') {digits : List Char} {b : Bytes}
    (h : SpellsBytes digits b) (offset : Nat) :
    atomOf ⟨'0' :: x :: digits, offset⟩ = .ok (.atom b) := by
  have hblank : ∀ c ∈ digits, Text.isBlank c = false := fun c hc =>
    Bytes.isBlank_of_isHexDigit (h.isHexDigit hc)
  have hmark : hexDigits? ('0' :: x :: digits) = some digits := by
    rcases hx with rfl | rfl <;> rfl
  rw [atomOf, read_marked hx hblank]
  dsimp only
  rw [hmark]
  dsimp only
  rw [h.hexPairs?_padded]

/-! ## Steps of the reader -/

section Steps

variable {levels : Nat} {t next : Token} {cursor after : Cursor}

theorem expression_open (ht : t.text = ['(']) (hnext : nextInList cursor = .ok (next, after)) :
    expression (levels + 1) t cursor = listTail levels next after := by
  rw [expression, if_pos (by simp [ht]), hnext]
  rfl

theorem expression_atom (ht : t.text ≠ ['(']) :
    expression (levels + 1) t cursor = (atomOf t).map (·, cursor) := by
  rw [expression, if_neg (by simpa using ht)]

theorem listTail_close (ht : t.text = [')']) :
    listTail (levels + 1) t cursor = .ok (.nil, cursor) := by
  rw [listTail, if_pos (by simp [ht])]

theorem listTail_refused {e : AssemblyError} (ht : t.text ≠ [')'])
    (hfirst : expression levels t cursor = .error e) :
    listTail (levels + 1) t cursor = .error e := by
  rw [listTail, if_neg (by simpa using ht), hfirst]
  rfl

/-- After a dot comes the last expression of a list, and then the closing bracket. -/
theorem listTail_dot {p : Program} {dot : Token} {afterFirst afterDot : Cursor}
    (ht : t.text ≠ [')']) (hfirst : expression levels t cursor = .ok (p, afterFirst))
    (hdot : nextInList afterFirst = .ok (dot, afterDot)) (hdot' : dot.text = ['.'])
    (hnext : nextInList afterDot = .ok (next, after)) :
    listTail (levels + 1) t cursor = (do
      let (last, cursor) ← expression levels next after
      let (t, cursor) ← nextInList cursor
      if t.text == [')'] then return (.pair p last, cursor)
      else .error (.illegalDot dot.offset)) := by
  rw [listTail, if_neg (by simpa using ht), hfirst]
  change (nextInList afterFirst >>= _) = _
  rw [hdot]
  change (if dot.text == ['.'] then _ else _) = _
  rw [if_pos (by simp [hdot']), hnext]
  rfl

end Steps

/-! ## Whole texts -/

/-- The expression that starts with a token is the program, if there are levels enough for it. -/
def IsExpression (t : Token) (cursor : Cursor) (p : Program) (after : Cursor) : Prop :=
  ∀ levels, expression levels t cursor =
    if p.levels ≤ levels then .ok (p, after) else .error .tooNested

/-- The text is read as the program, whatever blanks stand before it and whatever follows it. -/
def ReadsAs (s : List Char) (p : Program) : Prop :=
  ∀ {gap rest : List Char}, IsGap gap → EndsWord rest → ∀ offset, ∃ t cursor offset',
    nextToken? ⟨gap ++ (s ++ rest), offset⟩ = .ok (some (t, cursor)) ∧ t.text ≠ [')'] ∧
      IsExpression t cursor p ⟨rest, offset'⟩

/-- **Two brackets are the empty atom**, with any gap between them. -/
theorem readsAs_nil {inner : List Char} (hinner : IsGap inner) :
    ReadsAs ('(' :: (inner ++ [')'])) .nil := by
  intro gap rest hgap _ offset
  have hclose := nextInList_of_token
    (nextToken?_mark (.inr (.inl rfl)) hinner rest (offset + gap.length + 1))
  rw [List.cons_append, List.append_assoc, List.singleton_append]
  refine ⟨_, _, offset + gap.length + 1 + inner.length + 1,
    nextToken?_mark (.inl rfl) hgap _ offset, by simp, fun levels => ?_⟩
  match levels with
  | 0 => rfl
  | 1 =>
    rw [expression_open rfl hclose]
    rfl
  | levels + 2 =>
    rw [expression_open rfl hclose, listTail_close rfl]
    exact (if_pos (Nat.le_add_left 2 levels)).symm

/-- **A marked token is the atom of its bytes**, in digits of either case. -/
theorem readsAs_marked {x : Char} {digits : List Char} {b : Bytes} (hx : x = 'x' ∨ x = 'X')
    (hb : b ≠ []) (hdigits : SpellsBytes digits b) : ReadsAs ('0' :: x :: digits) (.atom b) := by
  intro gap rest hgap hrest offset
  have hword : ∀ d ∈ x :: digits, endsWord d = false := by
    rw [List.forall_mem_cons]
    refine ⟨?_, fun d hd => endsWord_of_isHexDigit (hdigits.isHexDigit hd)⟩
    rcases hx with rfl | rfl <;> decide
  refine ⟨_, _, offset + gap.length + ('0' :: x :: digits).length,
    nextToken?_word (c := '0') (by decide) hword hgap hrest offset, by simp, fun levels => ?_⟩
  obtain ⟨y, ys, rfl⟩ := List.exists_cons_of_ne_nil hb
  cases levels with
  | zero => rfl
  | succ levels =>
    rw [expression_atom (by simp), atomOf_marked hx hdigits]
    exact (if_pos (Nat.le_add_left 1 levels)).symm

/-- Two expressions with a dot between them, in brackets, are a pair. -/
theorem IsExpression.pair {p q : Program} {opening first dot second close : Token}
    {atOpening atFirst afterFirst afterDot atSecond afterSecond after : Cursor}
    (hopening : opening.text = ['(']) (hfirst : nextInList atOpening = .ok (first, atFirst))
    (hfirst' : first.text ≠ [')']) (hp : IsExpression first atFirst p afterFirst)
    (hdot : nextInList afterFirst = .ok (dot, afterDot)) (hdot' : dot.text = ['.'])
    (hsecond : nextInList afterDot = .ok (second, atSecond))
    (hq : IsExpression second atSecond q afterSecond)
    (hclose : nextInList afterSecond = .ok (close, after)) (hclose' : close.text = [')']) :
    IsExpression opening atOpening (.pair p q) after := by
  intro levels
  match levels with
  | 0 => rfl
  | 1 =>
    rw [expression_open hopening hfirst, if_neg (by rw [Program.levels]; omega)]
    rfl
  | levels + 2 =>
    rw [expression_open hopening hfirst]
    by_cases hpl : p.levels ≤ levels
    · rw [listTail_dot hfirst' ((hp levels).trans (if_pos hpl)) hdot hdot' hsecond, hq levels]
      by_cases hql : q.levels ≤ levels
      · rw [if_pos hql, if_pos (by rw [Program.levels]; omega)]
        change (nextInList afterSecond >>= _) = _
        rw [hclose]
        exact if_pos (by simp [hclose'])
      · rw [if_neg hql, if_neg (by rw [Program.levels]; omega)]
        rfl
    · rw [listTail_refused hfirst' ((hp levels).trans (if_neg hpl)),
        if_neg (by rw [Program.levels]; omega)]

/-- **A dot between two texts pairs what they are read as**, with gaps anywhere, and one in front of
the dot at least, so that it belongs to no word. -/
theorem ReadsAs.pair {s t before left right after : List Char} {p q : Program} (hs : ReadsAs s p)
    (ht : ReadsAs t q) (hbefore : IsGap before) (hleft : IsGap left) (hleft' : left ≠ [])
    (hright : IsGap right) (hafter : IsGap after) :
    ReadsAs ('(' :: (before ++ (s ++ (left ++ '.' :: (right ++ (t ++ (after ++ [')'])))))))
      (.pair p q) := by
  intro gap rest hgap _ offset
  -- the tokens in turn: the bracket, the left half, the dot, the right half, the closing bracket
  obtain ⟨first, atFirst, o₁, hfirst, hfirst', hp⟩ := hs hbefore
    (endsWord_gap hleft hleft' ('.' :: (right ++ (t ++ (after ++ ')' :: rest)))))
    (offset + gap.length + 1)
  have hdot := nextInList_of_token
    (nextToken?_mark (.inr (.inr rfl)) hleft (right ++ (t ++ (after ++ ')' :: rest))) o₁)
  obtain ⟨second, atSecond, o₂, hsecond, -, hq⟩ :=
    ht hright (endsWord_close hafter rest) (o₁ + left.length + 1)
  have hclose := nextInList_of_token (nextToken?_mark (.inr (.inl rfl)) hafter rest o₂)
  simp only [List.cons_append, List.append_assoc, List.nil_append]
  refine ⟨_, _, o₂ + after.length + 1, nextToken?_mark (.inl rfl) hgap _ offset, by simp, ?_⟩
  exact .pair rfl (nextInList_of_token hfirst) hfirst' hp hdot rfl (nextInList_of_token hsecond)
    hq hclose rfl

/-- **A text of a program is read as that program**, one step for each way of writing one. -/
theorem Writes.readsAs {s : List Char} {p : Program} (h : Writes s p) : ReadsAs s p := by
  induction h with
  | nil hgap => exact readsAs_nil hgap
  | atom hx hb hdigits => exact readsAs_marked hx hb hdigits
  | pair _ _ hbefore hleft hleft' hright _ hafter ihp ihq =>
    exact ihp.pair ihq hbefore hleft hleft' hright hafter

/-- **The reader takes a text of a program if it has levels enough for it.** -/
theorem Writes.readWithin_eq {s : List Char} {p : Program} (h : Writes s p) {lead trail : List Char}
    (hlead : IsGap lead) (htrail : IsGap trail) (levels : Nat) :
    readWithin levels (String.ofList (lead ++ (s ++ trail))) =
      if p.levels ≤ levels then .ok p else .error .tooNested := by
  have hrest : EndsWord trail := by
    rw [← List.append_nil trail]
    cases trail with
    | nil => exact fun c hc => nomatch hc
    | cons c trail => exact endsWord_gap htrail (List.cons_ne_nil c trail) []
  obtain ⟨t, cursor, offset, ht, -, hread⟩ := h.readsAs hlead hrest 0
  rw [readWithin, String.toList_ofList, ht]
  change ((expression levels t cursor).bind _) = _
  rw [hread levels]
  by_cases hp : p.levels ≤ levels
  · rw [if_pos hp, if_pos hp]
    rfl
  · rw [if_neg hp, if_neg hp]
    rfl

/-- The text of a pair stands in brackets. -/
theorem Writes.exists_inner {s : List Char} {p : Program} (h : Writes s p) (hp : p.isPair = true) :
    ∃ inner, s = '(' :: (inner ++ [')']) := by
  cases h with
  | nil => cases hp
  | atom => cases hp
  | @pair s t before left right after =>
    refine ⟨before ++ (s ++ (left ++ '.' :: (right ++ (t ++ after)))), ?_⟩
    simp only [List.append_assoc, List.cons_append]

end Assembly

/-! ## Every program has a text -/

namespace Program

/-- The text of a program in small digits, with single blanks around the dots. -/
def assemblyText : Program → List Char
  | .atom [] => ['(', ')']
  | .atom (x :: b) => '0' :: 'x' :: Bytes.hexChars (x :: b)
  | .pair p q => '(' :: (p.assemblyText ++ ' ' :: '.' :: ' ' :: (q.assemblyText ++ [')']))

/-- **What is printed writes the program**, by induction on it. -/
theorem writes_assemblyText (p : Program) : Assembly.Writes p.assemblyText p := by
  have hnone : Assembly.IsGap [] := by decide
  have hblank : Assembly.IsGap [' '] := by decide
  induction p with
  | atom b =>
    cases b with
    | nil => exact .nil hnone
    | cons x b =>
      exact .atom (.inl rfl) (List.cons_ne_nil x b)
        ⟨Bytes.isHexDigit_of_mem_hexChars, .inl (Bytes.hexPairs?_hexChars (x :: b))⟩
  | pair p q ihp ihq =>
    exact .pair ihp ihq hnone hblank (List.cons_ne_nil _ _) hblank (List.cons_ne_nil _ _) hnone

end Program

end CoinPuzzles
