import CoinPuzzles.Proofs.Program.AssemblyAtoms
import CoinPuzzles.Value.JsonReader
import CoinPuzzles.Value.JsonWriter

/-!
# Proofs/Value/JsonPieces — what the reader makes of a piece of text

What is read from a piece of text does not depend on what follows it, unless that goes on a number
(`Reads`).  There is one lemma for each kind of value, with any blanks between its parts; texts are
those that need no escapes, and numbers are natural.
-/

namespace CoinPuzzles.Json

/-! ## What stands in front of a text -/

/-- The text is empty or begins with a character that fails the test. -/
def Avoids (p : Char → Bool) (s : List Char) : Prop := ∀ c ∈ s.head?, p c = false

theorem avoids_cons {p : Char → Bool} {c : Char} (h : p c = false) (s : List Char) :
    Avoids p (c :: s) := fun _ hd => Option.mem_some.1 hd ▸ h

/-- A blank between the parts of a document. -/
def isGap (c : Char) : Bool := c == ' ' || c == '\t' || c == '\n' || c == '\r'

/-- Whether a character may go on a number. -/
def goesOn (c : Char) : Bool := c.isDigit || c == '.' || c == 'e' || c == 'E'

/-- No blank goes on a number, so a number ends where a gap begins. -/
theorem goesOn_of_isGap {c : Char} (h : isGap c = true) : goesOn c = false := by
  simp only [isGap, Bool.or_eq_true, beq_iff_eq] at h
  obtain ((rfl | rfl) | rfl) | rfl := h <;> decide

section Gaps

variable {gap s : List Char}

/-- **A gap is skipped whole**, and nothing of what stands after it. -/
theorem skipBlanks_append (hgap : ∀ c ∈ gap, isGap c = true) (hs : Avoids isGap s) :
    skipBlanks (gap ++ s) = s := by
  change (gap ++ s).dropWhile isGap = s
  rw [List.dropWhile_append_of_pos hgap]
  cases s with
  | nil => rfl
  | cons c s => exact List.dropWhile_cons_of_neg (by simp [hs c rfl])

theorem skipBlanks_eq_self (hs : Avoids isGap s) : skipBlanks s = s := by
  have hnone := skipBlanks_append (show ∀ c ∈ [], isGap c = true by simp) hs
  rwa [List.nil_append] at hnone

/-- A gap in front of a text keeps a number from being gone on with. -/
theorem avoids_append (hgap : ∀ c ∈ gap, isGap c = true) (hs : Avoids goesOn s) :
    Avoids goesOn (gap ++ s) := by
  cases gap with
  | nil => exact hs
  | cons c gap => exact avoids_cons (goesOn_of_isGap (hgap c List.mem_cons_self)) _

end Gaps

/-! ## Pieces of text -/

/-- The text begins with a character that is no blank and closes nothing. -/
def Starts (s : List Char) : Prop := ∃ c r, s = c :: r ∧ isGap c = false ∧ c ≠ ']' ∧ c ≠ '\x7d'

theorem Starts.append {s : List Char} (h : Starts s) (t : List Char) : Starts (s ++ t) := by
  obtain ⟨c, r, rfl, hc⟩ := h
  exact ⟨c, r ++ t, rfl, hc⟩

theorem Starts.avoids {s : List Char} (h : Starts s) : Avoids isGap s := by
  obtain ⟨c, r, rfl, hc, -⟩ := h
  exact avoids_cons hc r

/-- **The text is read as the value**, whatever follows that does not go on a number. -/
structure Reads (room : Nat) (text : List Char) (v : Value) : Prop where
  starts : Starts text
  read {fuel : Nat} {rest : List Char} (hfuel : text.length ≤ fuel)
    (hrest : Avoids goesOn rest) : value fuel room (text ++ rest) = .ok (v, rest)

/-- The text is read as the items of a list, its closing bracket included. -/
structure ReadsItems (room : Nat) (text : List Char) (vs : List Value) : Prop where
  starts : Starts text
  read {fuel : Nat} {rest : List Char} (hfuel : text.length ≤ fuel) :
    items fuel room (text ++ rest) = .ok (vs, rest)

/-- The text is read as the entries of a map after those already read, its closing brace
included. -/
structure ReadsEntries (room : Nat) (done : List (Value × Value)) (text : List Char)
    (es : List (Value × Value)) : Prop where
  starts : ∃ r, text = '\x22' :: r
  read {fuel : Nat} {rest : List Char} (hfuel : text.length ≤ fuel) :
    entries fuel room done (text ++ rest) = .ok (es, rest)

section Lists

variable {room : Nat} {text body gap : List Char} {v : Value} {vs : List Value}

/-- **The last item of a list** is an item, a gap and the bracket that closes the list. -/
theorem Reads.singleton (h : Reads room text v) (hgap : ∀ c ∈ gap, isGap c = true) :
    ReadsItems room (text ++ (gap ++ [']'])) [v] where
  starts := h.starts.append _
  read {fuel rest} hfuel := by
    simp only [List.length_append, List.length_singleton] at hfuel
    obtain ⟨fuel, rfl⟩ : ∃ n, fuel = n + 1 := ⟨fuel - 1, by omega⟩
    rw [List.append_assoc, List.append_assoc, List.singleton_append, items,
      h.read (by omega) (avoids_append hgap (avoids_cons (by decide) _))]
    dsimp only [bind, Except.bind]
    rw [skipBlanks_append hgap (avoids_cons (by decide) _)]
    rfl

/-- **One more item in front**, with a comma and a gap between it and the others. -/
theorem ReadsItems.cons (hs : ReadsItems room body vs) (h : Reads room text v)
    (hgap : ∀ c ∈ gap, isGap c = true) :
    ReadsItems room (text ++ ',' :: (gap ++ body)) (v :: vs) where
  starts := h.starts.append _
  read {fuel rest} hfuel := by
    simp only [List.length_append, List.length_cons] at hfuel
    obtain ⟨fuel, rfl⟩ : ∃ n, fuel = n + 1 := ⟨fuel - 1, by omega⟩
    have hvalue : value fuel room (text ++ ',' :: (gap ++ (body ++ rest))) =
        .ok (v, ',' :: (gap ++ (body ++ rest))) := h.read (by omega) (avoids_cons (by decide) _)
    rw [List.append_assoc, List.cons_append, List.append_assoc, items, hvalue]
    dsimp only [bind, Except.bind]
    rw [skipBlanks_eq_self (avoids_cons (by decide) _)]
    change (items fuel room (skipBlanks (gap ++ (body ++ rest))) >>= _) = _
    rw [skipBlanks_append hgap (hs.starts.append rest).avoids, hs.read (by omega)]
    rfl

theorem reads_emptyList : Reads (room + 1) ['[', ']'] (.list []) where
  starts := ⟨'[', _, rfl, by decide⟩
  read {fuel rest} hfuel _ := by
    obtain ⟨fuel, rfl⟩ : ∃ n, fuel = n + 1 := ⟨fuel - 1, by simp at hfuel; omega⟩
    rw [List.cons_append, List.singleton_append, value,
      skipBlanks_eq_self (avoids_cons (by decide) _)]
    rfl

/-- **A list is its items behind an opening bracket**, one level further out than they are. -/
theorem ReadsItems.reads (h : ReadsItems room body vs) (hgap : ∀ c ∈ gap, isGap c = true) :
    Reads (room + 1) ('[' :: (gap ++ body)) (.list vs) where
  starts := ⟨'[', _, rfl, by decide⟩
  read {fuel rest} hfuel _ := by
    simp only [List.length_append, List.length_cons] at hfuel
    obtain ⟨fuel, rfl⟩ : ∃ n, fuel = n + 1 := ⟨fuel - 1, by omega⟩
    have hstarts := h.starts.append rest
    have hitems : items fuel room (body ++ rest) = .ok (vs, rest) := h.read (by omega)
    rw [List.cons_append, List.append_assoc, value, skipBlanks_append hgap hstarts.avoids]
    obtain ⟨c, r, hcr, -, hclose, -⟩ := hstarts
    rw [hcr] at hitems ⊢
    split
    · next heq =>
      exact absurd (List.cons.inj heq).1 hclose
    · rw [hitems]
      rfl

end Lists

/-! ## Texts -/

/-- A character that needs no escape. -/
def isPlain (c : Char) : Bool :=
  decide (0x20 ≤ c.toNat) && decide (c.toNat ≤ 0x7E) && c != '\x22' && c != '\x5c'

/-- The test for plain characters as conditions on the character, as the writer makes them. -/
theorem isPlain_iff {c : Char} : isPlain c = true ↔
    ((0x20 ≤ c.toNat ∧ c.toNat ≤ 0x7E) ∧ c ≠ '\x22') ∧ c ≠ '\x5c' := by
  simp [isPlain]

theorem escaped_plain {c : Char} (h : isPlain c = true) : escaped c = [c] := by
  have hall : ∀ n < 0x7F, isPlain (Char.ofNat n) = true →
      escaped (Char.ofNat n) = [Char.ofNat n] := by
    decide +kernel
  have hc := hall c.toNat (by have := (isPlain_iff.1 h).1.1.2; omega)
  rw [Char.ofNat_toNat] at hc
  exact hc h

/-- A body of plain characters is read up to its closing quote, with one step of fuel for each
character; by induction on them, as none begins an escape. -/
theorem stringBody_plain : ∀ {cs : List Char} {fuel : Nat} (rest : List Char),
    (∀ c ∈ cs, isPlain c = true) → cs.length < fuel →
      stringBody fuel (cs ++ '\x22' :: rest) = some (cs, rest)
  | [], fuel + 1, rest, _, _ => rfl
  | c :: cs, fuel + 1, rest, h, hfuel => by
    obtain ⟨hc, hcs⟩ := List.forall_mem_cons.1 h
    obtain ⟨⟨⟨hlow, -⟩, hquote⟩, hslash⟩ := isPlain_iff.1 hc
    have ih := stringBody_plain rest hcs (Nat.lt_of_succ_lt_succ hfuel)
    rw [List.cons_append, stringBody.eq_def]
    dsimp only
    rw [if_neg (by simpa using hquote), if_neg (by simpa using hslash), if_neg (by omega), ih]
    rfl

theorem toList_quoted {s : String} (h : ∀ c ∈ s.toList, isPlain c = true) :
    (quoted s).toList = '\x22' :: (s.toList ++ ['\x22']) := by
  have hall : ∀ cs : List Char, (∀ c ∈ cs, isPlain c = true) → cs.flatMap escaped = cs := by
    intro cs hcs
    induction cs with
    | nil => rfl
    | cons c cs ih =>
      obtain ⟨hc, hcs⟩ := List.forall_mem_cons.1 hcs
      rw [List.flatMap_cons, escaped_plain hc, ih hcs]
      rfl
  rw [quoted, String.toList_ofList, hall _ h]
  rfl

/-- **A text of plain characters is read back from its quotes.** -/
theorem reads_text {room : Nat} {s : String} (h : ∀ c ∈ s.toList, isPlain c = true) :
    Reads room (quoted s).toList (.text s) where
  starts := by
    rw [toList_quoted h]
    exact ⟨_, _, rfl, by decide⟩
  read {fuel rest} hfuel _ := by
    rw [toList_quoted h] at hfuel ⊢
    obtain ⟨fuel, rfl⟩ : ∃ n, fuel = n + 1 := ⟨fuel - 1, by simp at hfuel; omega⟩
    simp only [List.length_cons, List.length_append, List.length_nil] at hfuel
    rw [List.cons_append, List.append_assoc, value, List.singleton_append,
      stringBody_plain rest h (by rw [List.length_append]; omega)]
    dsimp only
    rw [String.ofList_toList]

section Maps

variable {room : Nat} {key text body gap gap' : List Char} {v : Value}
  {done es : List (Value × Value)}

/-- The text of an entry: its key, a colon, blanks and the text of its value. -/
def entry (key gap text : List Char) : List Char :=
  '\x22' :: (key ++ '\x22' :: ':' :: (gap ++ text))

theorem entry_append (key gap text rest : List Char) :
    entry key gap text ++ rest = entry key gap (text ++ rest) := by
  simp only [entry, List.cons_append, List.append_assoc]

/-- An entry has three marks more than its parts: two quotes and a colon. -/
theorem length_entry (key gap text : List Char) :
    (entry key gap text).length = key.length + gap.length + text.length + 3 := by
  simp only [entry, List.length_cons, List.length_append]
  omega

/-- What stands before the value of an entry is passed over. -/
theorem entries_entry {fuel : Nat} {left : List Char} (hkey : ∀ c ∈ key, isPlain c = true)
    (hgap : ∀ c ∈ gap, isGap c = true) (htext : Avoids isGap text)
    (hvalue : value fuel room text = .ok (v, left)) :
    entries (fuel + 1) room done (entry key gap text) =
      match skipBlanks left with
      | ',' :: r => entries fuel room (Value.put (.text (String.ofList key)) v done) (skipBlanks r)
      | '\x7d' :: r => .ok (Value.put (.text (String.ofList key)) v done, r)
      | _ => .error .malformed := by
  rw [entry, entries, stringBody_plain _ hkey (by rw [List.length_append, List.length_cons]; omega)]
  dsimp only
  rw [skipBlanks_eq_self (avoids_cons (by decide) _)]
  change (value fuel room (skipBlanks (gap ++ text)) >>= _) = _
  rw [skipBlanks_append hgap htext, hvalue]
  rfl

/-- **The last entry of a map** is put among the entries read before it, then comes the closing
brace. -/
theorem Reads.singletonEntry (h : Reads room text v) (hkey : ∀ c ∈ key, isPlain c = true)
    (hgap : ∀ c ∈ gap, isGap c = true) (hgap' : ∀ c ∈ gap', isGap c = true) :
    ReadsEntries room done (entry key gap text ++ (gap' ++ ['\x7d']))
      (Value.put (.text (String.ofList key)) v done) where
  starts := ⟨_, rfl⟩
  read {fuel rest} hfuel := by
    simp only [List.length_append, length_entry, List.length_singleton] at hfuel
    obtain ⟨fuel, rfl⟩ : ∃ n, fuel = n + 1 := ⟨fuel - 1, by omega⟩
    have hvalue : value fuel room (text ++ (gap' ++ '\x7d' :: rest)) =
        .ok (v, gap' ++ '\x7d' :: rest) :=
      h.read (by omega) (avoids_append hgap' (avoids_cons (by decide) _))
    rw [List.append_assoc, List.append_assoc, List.singleton_append, entry_append,
      entries_entry hkey hgap (h.starts.append _).avoids hvalue,
      skipBlanks_append hgap' (avoids_cons (by decide) _)]
    rfl

/-- **One more entry in front**: it is put among the entries read before it, and the others are put
after it. -/
theorem ReadsEntries.cons
    (hs : ReadsEntries room (Value.put (.text (String.ofList key)) v done) body es)
    (h : Reads room text v) (hkey : ∀ c ∈ key, isPlain c = true)
    (hgap : ∀ c ∈ gap, isGap c = true) (hgap' : ∀ c ∈ gap', isGap c = true) :
    ReadsEntries room done (entry key gap text ++ ',' :: (gap' ++ body)) es where
  starts := ⟨_, rfl⟩
  read {fuel rest} hfuel := by
    simp only [List.length_append, length_entry, List.length_cons] at hfuel
    obtain ⟨fuel, rfl⟩ : ∃ n, fuel = n + 1 := ⟨fuel - 1, by omega⟩
    obtain ⟨r, hbody⟩ := hs.starts
    have hvalue : value fuel room (text ++ ',' :: (gap' ++ (body ++ rest))) =
        .ok (v, ',' :: (gap' ++ (body ++ rest))) := h.read (by omega) (avoids_cons (by decide) _)
    rw [List.append_assoc, List.cons_append, List.append_assoc, entry_append,
      entries_entry hkey hgap (h.starts.append _).avoids hvalue,
      skipBlanks_eq_self (avoids_cons (by decide) _)]
    change entries fuel room _ (skipBlanks (gap' ++ (body ++ rest))) = _
    rw [skipBlanks_append hgap' (by rw [hbody]; exact avoids_cons (by decide) _),
      hs.read (by omega)]

theorem reads_emptyMap : Reads (room + 1) ['\x7b', '\x7d'] (.map []) where
  starts := ⟨'\x7b', _, rfl, by decide⟩
  read {fuel rest} hfuel _ := by
    obtain ⟨fuel, rfl⟩ : ∃ n, fuel = n + 1 := ⟨fuel - 1, by simp at hfuel; omega⟩
    rw [List.cons_append, List.singleton_append, value,
      skipBlanks_eq_self (avoids_cons (by decide) _)]
    rfl

/-- **A map is its entries behind an opening brace**, one level further out than they are, and they
are put into an empty map. -/
theorem ReadsEntries.reads (h : ReadsEntries room [] body es) (hgap : ∀ c ∈ gap, isGap c = true) :
    Reads (room + 1) ('\x7b' :: (gap ++ body)) (.map es) where
  starts := ⟨'\x7b', _, rfl, by decide⟩
  read {fuel rest} hfuel _ := by
    simp only [List.length_append, List.length_cons] at hfuel
    obtain ⟨fuel, rfl⟩ : ∃ n, fuel = n + 1 := ⟨fuel - 1, by omega⟩
    have hentries : entries fuel room [] (body ++ rest) = .ok (es, rest) := h.read (by omega)
    obtain ⟨r, rfl⟩ := h.starts
    have hquote : Avoids isGap ('\x22' :: r ++ rest) := avoids_cons (by decide) (r ++ rest)
    rw [List.cons_append, List.append_assoc, value, skipBlanks_append hgap hquote]
    change Except.map _ (entries fuel room [] ('\x22' :: r ++ rest)) = _
    rw [hentries]
    rfl

end Maps

/-! ## Natural numbers -/

theorem ofAscii_toDigits (n : Nat) : Numeral.ofAscii (Nat.toDigits 10 n) = n := by
  induction n using Nat.strong_induction_on with
  | _ n ih =>
    have hdigit : ∀ d < 10, d.digitChar.toNat - 48 = d := by decide
    rw [Nat.toDigits_eq_if (by decide)]
    split
    · next h =>
      rw [Numeral.ofAscii, List.map_singleton, hdigit n h, Numeral.ofDigits, List.foldl_cons,
        List.foldl_nil, Nat.mul_zero, Nat.zero_add]
    · next h =>
      have hlast := hdigit (n % 10) (Nat.mod_lt n (by decide))
      have ih := ih (n / 10) (by omega)
      rw [Numeral.ofAscii] at ih ⊢
      rw [List.map_append, List.map_singleton, Numeral.ofDigits_append, ih, hlast]
      omega

/-- Only zero begins with the digit zero. -/
theorem head?_toDigits {n : Nat} (h : n ≠ 0) : (Nat.toDigits 10 n).head? ≠ some '0' := by
  induction n using Nat.strong_induction_on with
  | _ n ih =>
    rw [Nat.toDigits_eq_if (by decide)]
    split
    · next hlt =>
      have hall : ∀ m < 10, m ≠ 0 → some m.digitChar ≠ some '0' := by decide
      exact hall n hlt h
    · next hge =>
      rw [List.head?_append_of_ne_nil _ Nat.toDigits_ne_nil]
      exact ih (n / 10) (by omega) (by omega)

theorem takeFraction_of_avoids {s : List Char} (h : Avoids goesOn s) :
    takeFraction s = ([], s) := by
  rw [takeFraction.eq_def]
  split
  · exact absurd (h '.' rfl) (by decide)
  · rfl

theorem takeExponent_of_avoids {s : List Char} (h : Avoids goesOn s) :
    takeExponent s = (none, s) := by
  rw [takeExponent.eq_def]
  split
  · next e rest =>
    have he := h e rfl
    simp only [goesOn, Bool.or_eq_false_iff] at he
    rw [he.1.2, he.2]
    rfl
  · rfl

/-- **The digits of a natural number are read as that number**, unless there are more of them than
can be read. -/
theorem number_toDigits {n : Nat} (h : (Nat.toDigits 10 n).length ≤ Numeral.digitLimit)
    {rest : List Char} (hrest : Avoids goesOn rest) :
    number false (Nat.toDigits 10 n ++ rest) = .ok (.int n, rest) := by
  have hdigits : (Nat.toDigits 10 n ++ rest).takeWhile Char.isDigit = Nat.toDigits 10 n := by
    rw [List.takeWhile_append_of_pos fun c hc =>
      Nat.isDigit_of_mem_toDigits (by decide) (by decide) hc]
    cases rest with
    | nil => rw [List.takeWhile_nil, List.append_nil]
    | cons c rest =>
      have hc := hrest c rfl
      simp only [goesOn, Bool.or_eq_false_iff] at hc
      rw [List.takeWhile_cons_of_neg (by simp [hc.1.1.1]), List.append_nil]
  have hwhole : (if (Nat.toDigits 10 n).head? == some '0' then ['0'] else Nat.toDigits 10 n) =
      Nat.toDigits 10 n := by
    by_cases hzero : n = 0
    · subst hzero
      rfl
    · rw [if_neg (by simpa using head?_toDigits hzero)]
  have hne : (Nat.toDigits 10 n).isEmpty = false :=
    List.isEmpty_eq_false_iff.2 Nat.toDigits_ne_nil
  rw [number]
  dsimp only
  rw [hdigits, hwhole, List.drop_left, hne, takeFraction_of_avoids hrest]
  dsimp only
  rw [takeExponent_of_avoids hrest]
  dsimp only
  rw [if_neg Bool.false_ne_true, if_pos (by rfl), if_neg (Nat.not_lt.2 h), ofAscii_toDigits]
  rfl

/-- What begins with a digit begins with none of the words that stand for a value. -/
theorem afterWord?_of_isDigit {word : String} {c : Char} (h : c.isDigit = true)
    (hword : word.toList.head?.map Char.isDigit = some false) (s : List Char) :
    afterWord? word (c :: s) = none := by
  rw [afterWord?]
  cases hd : word.toList with
  | nil =>
    rw [hd] at hword
    cases hword
  | cons d w =>
    rw [hd] at hword
    have hne : (d == c) = false := by
      rw [beq_eq_false_iff_ne]
      rintro rfl
      exact absurd h (Bool.eq_false_iff.1 (Option.some.inj hword))
    rw [List.isPrefixOf_cons_cons, hne, Bool.false_and, if_neg Bool.false_ne_true]

/-- A digit begins no word. -/
theorem scalar_of_isDigit {c : Char} (h : c.isDigit = true) (s : List Char) :
    scalar (c :: s) = number false (c :: s) := by
  rw [scalar]
  simp only [List.findSome?_cons, List.findSome?_nil,
    afterWord?_of_isDigit h (show ("null".toList.head?.map _) = _ by decide),
    afterWord?_of_isDigit h (show ("true".toList.head?.map _) = _ by decide),
    afterWord?_of_isDigit h (show ("false".toList.head?.map _) = _ by decide),
    afterWord?_of_isDigit h (show ("NaN".toList.head?.map _) = _ by decide),
    afterWord?_of_isDigit h (show ("Infinity".toList.head?.map _) = _ by decide),
    afterWord?_of_isDigit h (show ("-Infinity".toList.head?.map _) = _ by decide),
    Option.map_none]
  -- what is left is that the digit is no sign
  intro rest heq
  rw [(List.cons.inj heq).1] at h
  exact absurd h (by decide)

/-- **A natural number is read back from its numeral**, if that can be read at all. -/
theorem reads_natural {room n : Nat} (h : (toString n).length ≤ Numeral.digitLimit) :
    Reads room (toString n).toList (.int n) := by
  have hdigits : (toString n).toList = Nat.toDigits 10 n := String.toList_ofList
  have hlength : (Nat.toDigits 10 n).length ≤ Numeral.digitLimit := by
    rwa [← hdigits, String.length_toList]
  obtain ⟨c, r, hcr⟩ :=
    List.exists_cons_of_ne_nil (Nat.toDigits_ne_nil : Nat.toDigits 10 n ≠ [])
  have hc : c.isDigit = true :=
    Nat.isDigit_of_mem_toDigits (by decide) (by decide) (hcr ▸ List.mem_cons_self)
  have hapart {d : Char} (hd : d.isDigit = false) : c ≠ d := by
    rintro rfl
    exact absurd hc (Bool.eq_false_iff.1 hd)
  rw [hdigits]
  refine ⟨⟨c, r, hcr, ?_, hapart (by decide), hapart (by decide)⟩,
    fun {fuel rest} hfuel hrest => ?_⟩
  · refine Bool.eq_false_iff.2 fun hgap => ?_
    have hstop := goesOn_of_isGap hgap
    rw [goesOn, hc] at hstop
    cases hstop
  · obtain ⟨fuel, rfl⟩ : ∃ n, fuel = n + 1 := ⟨fuel - 1, by rw [hcr] at hfuel; simp at hfuel; omega⟩
    have hnumber := number_toDigits hlength hrest
    rw [hcr, List.cons_append, ← scalar_of_isDigit hc] at hnumber
    rw [hcr, List.cons_append, value.eq_def]
    dsimp only
    split
    · next heq => exact absurd (List.cons.inj heq).1 (hapart (by decide))
    · next heq => exact absurd (List.cons.inj heq).1 (hapart (by decide))
    · next heq => exact absurd (List.cons.inj heq).1 (hapart (by decide))
    · exact hnumber

end CoinPuzzles.Json
