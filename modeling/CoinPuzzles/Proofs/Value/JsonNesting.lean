import CoinPuzzles.Proofs.Outcome
import CoinPuzzles.Value.JsonReader

/-!
# Proofs/Value/JsonNesting — how deep a text can nest its lists and maps

Every part of the reader leaves an end of the text that it is given (`leavesSuffixes`), and a level
is spent on an opening bracket only.  So a text that is nested past a limit has more opening
brackets than the limit allows levels (`lt_openings_of_readWithin`).
-/

namespace CoinPuzzles.Json

open Outcome (error_ne_ok ok_ne_error)

/-! ## What is left of a text -/

section

variable {s r : List Char}

theorem skipBlanks_suffix (s : List Char) : skipBlanks s <:+ s := List.dropWhile_suffix _

/-- The step behind every mark: one character is taken and the blanks after it are skipped. -/
theorem skipBlanks_suffix_of_cons {c : Char} (h : c :: r <:+ s) : skipBlanks r <:+ s :=
  (skipBlanks_suffix r).trans ((List.suffix_cons c r).trans h)

theorem hexQuad?_suffix {n : Nat} (h : hexQuad? s = some (n, r)) : r <:+ s := by
  rw [hexQuad?.eq_def] at h
  split at h
  · split at h
    · obtain ⟨-, rfl⟩ := Prod.mk.inj (Option.some.inj h)
      exact ⟨[_, _, _, _], rfl⟩
    · cases h
  · cases h

/-- An escape takes four digits, or twice four if two halves of a pair follow each other; a half
that stands alone leaves what comes after it. -/
theorem unicodeEscape?_suffix {c : Char} (h : unicodeEscape? s = some (c, r)) : r <:+ s := by
  rw [unicodeEscape?] at h
  obtain ⟨⟨high, rest⟩, hhigh, h⟩ := Option.bind_eq_some_iff.1 h
  have hrest := hexQuad?_suffix hhigh
  have hkept {d : Char} (h : some (d, rest) = some (c, r)) : r <:+ s := by
    obtain ⟨-, rfl⟩ := Prod.mk.inj (Option.some.inj h)
    exact hrest
  dsimp only at h
  split at h
  · split at h
    · next rest' =>
      split at h
      · next low rest'' hlow =>
        split at h
        · obtain ⟨-, rfl⟩ := Prod.mk.inj (Option.some.inj h)
          exact (hexQuad?_suffix hlow).trans ((List.suffix_append [_, _] _).trans hrest)
        · exact hkept h
      · exact hkept h
    · exact hkept h
  · split at h <;> exact hkept h

/-- **A body of a text leaves what stands behind its closing quote**, by induction on the fuel: a
quote ends it, and every other character or escape is followed by another body. -/
theorem stringBody_suffix : ∀ {fuel : Nat} {s cs r : List Char},
    stringBody fuel s = some (cs, r) → r <:+ s
  | 0, _, _, _, h => by cases h
  | _ + 1, [], _, _, h => by cases h
  | fuel + 1, c :: rest, cs, r, h => by
    have hmore {s' : List Char} {d : Char} (hs' : s' <:+ c :: rest)
        (h : ((stringBody fuel s').bind fun p => some (d :: p.1, p.2)) = some (cs, r)) :
        r <:+ c :: rest := by
      obtain ⟨⟨ds, r'⟩, hbody, h⟩ := Option.bind_eq_some_iff.1 h
      obtain ⟨-, rfl⟩ := Prod.mk.inj (Option.some.inj h)
      exact (stringBody_suffix hbody).trans hs'
    rw [stringBody.eq_def] at h
    dsimp only at h
    split at h
    · obtain ⟨-, rfl⟩ := Prod.mk.inj (Option.some.inj h)
      exact List.suffix_cons _ _
    · split at h
      · split at h
        · next rest' =>
          obtain ⟨⟨d, rest''⟩, hescape, h⟩ := Option.bind_eq_some_iff.1 h
          exact hmore ((unicodeEscape?_suffix hescape).trans (List.suffix_append [_, _] _)) h
        · next e rest' _ =>
          obtain ⟨d, -, h⟩ := Option.bind_eq_some_iff.1 h
          exact hmore (List.suffix_append [_, _] _) h
        · cases h
      · split at h
        · cases h
        · exact hmore (List.suffix_cons _ _) h

theorem takeFraction_suffix (s : List Char) : (takeFraction s).2 <:+ s := by
  rw [takeFraction.eq_def]
  split
  · next rest =>
    dsimp only
    split
    · exact List.suffix_refl _
    · exact (List.drop_suffix _ _).trans (List.suffix_cons _ _)
  · exact List.suffix_refl _

theorem takeSign_suffix (s : List Char) : (Numeral.takeSign s).2 <:+ s := by
  rw [Numeral.takeSign.eq_def]
  split
  · exact List.suffix_cons _ _
  · exact List.suffix_cons _ _
  · exact List.suffix_refl _

theorem takeExponent_suffix (s : List Char) : (takeExponent s).2 <:+ s := by
  rw [takeExponent.eq_def]
  split
  · next e rest =>
    split
    · dsimp only
      split
      · exact List.suffix_refl _
      · exact (List.drop_suffix _ _).trans
          ((takeSign_suffix rest).trans (List.suffix_cons _ _))
    · exact List.suffix_refl _
  · exact List.suffix_refl _

/-- A result that leaves an end of the text, or a refusal that no bracket causes. -/
structure IsFlat (x : Except JsonError (Value × List Char)) (s : List Char) : Prop where
  suffix {v : Value} {r : List Char} (h : x = .ok (v, r)) : r <:+ s
  ne_tooNested : x ≠ .error .tooNested

theorem IsFlat.error {cause : JsonError} (h : cause ≠ .tooNested) : IsFlat (.error cause) s :=
  ⟨fun h => absurd h error_ne_ok, fun h' => h (Except.error.inj h')⟩

theorem IsFlat.ok {v : Value} (h : r <:+ s) : IsFlat (.ok (v, r)) s where
  suffix h' := by
    obtain ⟨-, rfl⟩ := Prod.mk.inj (Except.ok.inj h')
    exact h
  ne_tooNested := ok_ne_error

/-- What is left of an end of a text is left of the text. -/
theorem IsFlat.mono {x : Except JsonError (Value × List Char)} (h : IsFlat x r) (hr : r <:+ s) :
    IsFlat x s :=
  ⟨fun h' => (h.suffix h').trans hr, h.ne_tooNested⟩

/-- A number never spends a level, and leaves what stands behind its last part. -/
theorem isFlat_number (negative : Bool) (s : List Char) : IsFlat (number negative s) s := by
  have hrest (k : Nat) : (takeExponent (takeFraction (s.drop k)).2).2 <:+ s :=
    (takeExponent_suffix _).trans ((takeFraction_suffix _).trans (List.drop_suffix _ _))
  rw [number]
  generalize (if ((s.takeWhile Char.isDigit).head? == some '0') = true then ['0']
    else s.takeWhile Char.isDigit) = whole
  dsimp only
  split
  · exact .error (by decide)
  · split
    · split
      · exact .error (by simp)
      · exact .ok (hrest _)
    · exact .ok (hrest _)

/-- **Words and numbers never spend a level**: only lists and maps are nested. -/
theorem isFlat_scalar (s : List Char) : IsFlat (scalar s) s := by
  rw [scalar.eq_def]
  dsimp only
  split
  · next found hfound =>
    obtain ⟨⟨word, w⟩, -, hword⟩ := List.exists_of_findSome?_eq_some hfound
    obtain ⟨rest, hrest, rfl⟩ := Option.map_eq_some_iff.1 hword
    rw [afterWord?] at hrest
    split at hrest
    · obtain rfl := Option.some.inj hrest
      exact .ok (List.drop_suffix _ _)
    · cases hrest
  · split
    · exact (isFlat_number true _).mono (List.suffix_cons _ _)
    · exact isFlat_number false _

end

/-- What the three readers of values leave of a text, with some fuel. -/
structure LeavesSuffixes (fuel : Nat) : Prop where
  value {room : Nat} {s r : List Char} {v : Value} (h : value fuel room s = .ok (v, r)) : r <:+ s
  items {room : Nat} {s r : List Char} {vs : List Value} (h : items fuel room s = .ok (vs, r)) :
    r <:+ s
  entries {room : Nat} {s r : List Char} {es es' : List (Value × Value)}
    (h : entries fuel room es s = .ok (es', r)) : r <:+ s

section

variable {fuel room : Nat} {s r : List Char}

/-- What a value leaves: a text leaves what its body does, a list or a map what its items or entries
do, and all else is flat. -/
theorem LeavesSuffixes.value_succ {v : Value} (ih : LeavesSuffixes fuel)
    (h : Json.value (fuel + 1) room s = .ok (v, r)) : r <:+ s := by
  rw [Json.value.eq_def] at h
  dsimp only at h
  split at h
  · next rest =>
    split at h
    · next cs r' hbody =>
      obtain ⟨-, rfl⟩ := Prod.mk.inj (Except.ok.inj h)
      exact (stringBody_suffix hbody).trans (List.suffix_cons _ _)
    · exact absurd h error_ne_ok
  · next rest =>
    have hrest := skipBlanks_suffix_of_cons (List.suffix_refl ('[' :: rest))
    split at h
    · exact absurd h error_ne_ok
    · split at h
      · next r' hclosed =>
        obtain ⟨-, rfl⟩ := Prod.mk.inj (Except.ok.inj h)
        exact (List.suffix_cons _ _).trans (hclosed ▸ hrest)
      · obtain ⟨⟨vs, r'⟩, hitems, h⟩ := Outcome.map_eq_ok_iff.1 h
        obtain ⟨-, rfl⟩ := Prod.mk.inj h
        exact (ih.items hitems).trans hrest
  · next rest =>
    have hrest := skipBlanks_suffix_of_cons (List.suffix_refl ('\x7b' :: rest))
    split at h
    · exact absurd h error_ne_ok
    · split at h
      · next r' hclosed =>
        obtain ⟨-, rfl⟩ := Prod.mk.inj (Except.ok.inj h)
        exact (List.suffix_cons _ _).trans (hclosed ▸ hrest)
      · obtain ⟨⟨es, r'⟩, hentries, h⟩ := Outcome.map_eq_ok_iff.1 h
        obtain ⟨-, rfl⟩ := Prod.mk.inj h
        exact (ih.entries hentries).trans hrest
  · exact (isFlat_scalar _).suffix h

/-- What the items of a list leave, after the first of them: a comma and more items, or the end. -/
theorem LeavesSuffixes.items_succ {vs : List Value} (ih : LeavesSuffixes fuel)
    (h : Json.items (fuel + 1) room s = .ok (vs, r)) : r <:+ s := by
  rw [Json.items] at h
  obtain ⟨⟨v, r'⟩, hvalue, h⟩ := Outcome.bind_eq_ok_iff.1 h
  have hleft := (skipBlanks_suffix r').trans (ih.value hvalue)
  dsimp only at h
  split at h
  · next r'' hmore =>
    obtain ⟨⟨vs', r₂⟩, hitems, h⟩ := Outcome.bind_eq_ok_iff.1 h
    obtain ⟨-, rfl⟩ := Prod.mk.inj (Except.ok.inj h)
    exact (ih.items hitems).trans (skipBlanks_suffix_of_cons (hmore ▸ hleft))
  · next r'' hclosed =>
    obtain ⟨-, rfl⟩ := Prod.mk.inj (Except.ok.inj h)
    exact (List.suffix_cons _ _).trans (hclosed ▸ hleft)
  · exact absurd h error_ne_ok

/-- What the entries of a map leave, after the key of the first of them: a colon, its value, and
then a comma and more entries or the end. -/
theorem LeavesSuffixes.entries_succ {es es' : List (Value × Value)} (ih : LeavesSuffixes fuel)
    (h : Json.entries (fuel + 1) room es s = .ok (es', r)) : r <:+ s := by
  rw [Json.entries.eq_def] at h
  dsimp only at h
  split at h
  · next rest =>
    split at h
    · exact absurd h error_ne_ok
    · next cs r' hbody =>
      have hkey := (skipBlanks_suffix r').trans
        ((stringBody_suffix hbody).trans (List.suffix_cons '\x22' rest))
      split at h
      · next r'' hcolon =>
        obtain ⟨⟨v, r₂⟩, hvalue, h⟩ := Outcome.bind_eq_ok_iff.1 h
        have hleft := (skipBlanks_suffix r₂).trans
          ((ih.value hvalue).trans (skipBlanks_suffix_of_cons (hcolon ▸ hkey)))
        dsimp only at h
        split at h
        · next r₃ hmore =>
          exact (ih.entries h).trans (skipBlanks_suffix_of_cons (hmore ▸ hleft))
        · next r₃ hclosed =>
          obtain ⟨-, rfl⟩ := Prod.mk.inj (Except.ok.inj h)
          exact (List.suffix_cons _ _).trans (hclosed ▸ hleft)
        · exact absurd h error_ne_ok
      · exact absurd h error_ne_ok
  · exact absurd h error_ne_ok

end

/-- **The readers of values leave an end of the text.** -/
theorem leavesSuffixes : ∀ fuel : Nat, LeavesSuffixes fuel
  | 0 => by
    refine ⟨fun h => ?_, fun h => ?_, fun h => ?_⟩
    · rw [value] at h
      exact absurd h error_ne_ok
    · rw [items] at h
      exact absurd h error_ne_ok
    · rw [entries] at h
      exact absurd h error_ne_ok
  | fuel + 1 =>
    -- the readers call each other, so each step uses what the other two leave
    have ih := leavesSuffixes fuel
    ⟨ih.value_succ, ih.items_succ, ih.entries_succ⟩

/-! ## Opening brackets -/

/-- A bracket that opens a list or a map. -/
def isOpening (c : Char) : Bool := c == '[' || c == '\x7b'

/-- The number of opening brackets in a text. -/
def openings (s : List Char) : Nat := s.countP isOpening

/-- An end of a text has at most the opening brackets of the text. -/
theorem openings_le {s r : List Char} (h : r <:+ s) : openings r ≤ openings s :=
  h.sublist.countP_le

theorem openings_cons {c : Char} (h : isOpening c = true) (s : List Char) :
    openings (c :: s) = openings s + 1 := List.countP_cons_of_pos h

/-- Where the three readers of values stop for their depth, with some fuel: a text has more opening
brackets than there was room for. -/
structure SpendsRoom (fuel : Nat) : Prop where
  value {room : Nat} {s : List Char} (h : value fuel room s = .error .tooNested) :
    room < openings s
  items {room : Nat} {s : List Char} (h : items fuel room s = .error .tooNested) :
    room < openings s
  entries {room : Nat} {s : List Char} {es : List (Value × Value)}
    (h : entries fuel room es s = .error .tooNested) : room < openings s

section

variable {fuel room : Nat} {s : List Char}

/-- A value stops for its depth where a bracket opens without room, or behind a bracket where its
items or entries stop with one level less. -/
theorem SpendsRoom.value_succ (ih : SpendsRoom fuel)
    (h : Json.value (fuel + 1) room s = .error .tooNested) : room < openings s := by
  rw [Json.value.eq_def] at h
  dsimp only at h
  split at h
  · split at h <;> cases h
  · next rest =>
    rw [openings_cons (by decide)]
    split at h
    · omega
    · next room =>
      have hrest := openings_le (skipBlanks_suffix rest)
      split at h
      · cases h
      · have := ih.items (Outcome.map_eq_error_iff.1 h)
        omega
  · next rest =>
    rw [openings_cons (by decide)]
    split at h
    · omega
    · next room =>
      have hrest := openings_le (skipBlanks_suffix rest)
      split at h
      · cases h
      · have := ih.entries (Outcome.map_eq_error_iff.1 h)
        omega
  · exact absurd h (isFlat_scalar _).ne_tooNested

/-- Items stop for their depth in the first of them or in an end of what it leaves. -/
theorem SpendsRoom.items_succ (ih : SpendsRoom fuel)
    (h : Json.items (fuel + 1) room s = .error .tooNested) : room < openings s := by
  rw [Json.items] at h
  obtain h | ⟨⟨v, r⟩, hvalue, h⟩ := Outcome.bind_eq_error_iff.1 h
  · exact ih.value h
  · have hr := (skipBlanks_suffix r).trans ((leavesSuffixes fuel).value hvalue)
    dsimp only at h
    split at h
    · next r' hmore =>
      obtain h | ⟨_, -, h⟩ := Outcome.bind_eq_error_iff.1 h
      · exact Nat.lt_of_lt_of_le (ih.items h)
          (openings_le (skipBlanks_suffix_of_cons (hmore ▸ hr)))
      · cases h
    · cases h
    · cases h

/-- Entries stop for their depth in the value of the first of them or in an end of what it leaves; a
key is a text and has no depth. -/
theorem SpendsRoom.entries_succ {es : List (Value × Value)} (ih : SpendsRoom fuel)
    (h : Json.entries (fuel + 1) room es s = .error .tooNested) : room < openings s := by
  rw [Json.entries.eq_def] at h
  dsimp only at h
  split at h
  · next rest =>
    split at h
    · cases h
    · next cs r hbody =>
      have hkey := (skipBlanks_suffix r).trans
        ((stringBody_suffix hbody).trans (List.suffix_cons '\x22' rest))
      split at h
      · next r' hcolon =>
        have hafter := skipBlanks_suffix_of_cons (hcolon ▸ hkey)
        obtain h | ⟨⟨v, r₂⟩, hvalue, h⟩ := Outcome.bind_eq_error_iff.1 h
        · exact Nat.lt_of_lt_of_le (ih.value h) (openings_le hafter)
        · have hr₂ := (skipBlanks_suffix r₂).trans
            (((leavesSuffixes fuel).value hvalue).trans hafter)
          dsimp only at h
          split at h
          · next r₃ hmore =>
            exact Nat.lt_of_lt_of_le (ih.entries h)
              (openings_le (skipBlanks_suffix_of_cons (hmore ▸ hr₂)))
          · cases h
          · cases h
      · cases h
  · cases h

end

end CoinPuzzles.Json
