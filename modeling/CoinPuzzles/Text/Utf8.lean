import CoinPuzzles.Bytes.Basic

/-!
# Text/Utf8 — texts as byte strings

A character is written in one to four bytes.  The reader takes no overlong forms, no surrogates and
nothing past the last code point; `decodeUtf8_utf8` says that it undoes the writer.
-/

namespace CoinPuzzles.Text

/-- The bytes of a character. -/
def utf8Char (c : Char) : Bytes :=
  let n := c.toNat
  if n < 0x80 then [UInt8.ofNat n]
  else if n < 0x800 then [UInt8.ofNat (0xC0 + n / 0x40), UInt8.ofNat (0x80 + n % 0x40)]
  else if n < 0x10000 then
    [UInt8.ofNat (0xE0 + n / 0x1000), UInt8.ofNat (0x80 + n / 0x40 % 0x40),
      UInt8.ofNat (0x80 + n % 0x40)]
  else
    [UInt8.ofNat (0xF0 + n / 0x40000), UInt8.ofNat (0x80 + n / 0x1000 % 0x40),
      UInt8.ofNat (0x80 + n / 0x40 % 0x40), UInt8.ofNat (0x80 + n % 0x40)]

/-- The bytes of a text. -/
def utf8 (s : String) : Bytes := s.toList.flatMap utf8Char

/-- The low six bits of a continuation byte. -/
def continuation? (b : UInt8) : Option Nat :=
  if 0x80 ≤ b.toNat ∧ b.toNat < 0xC0 then some (b.toNat - 0x80) else none

/-- The character at a code point that is at least `least` and no surrogate. -/
def scalar? (least n : Nat) : Option Char :=
  if least ≤ n ∧ n < 0x110000 ∧ ¬(0xD800 ≤ n ∧ n < 0xE000) then some (Char.ofNat n) else none

/-- The characters that a byte string spells. -/
def decodeUtf8 : Bytes → Option (List Char)
  | [] => some []
  | a :: rest =>
    if a.toNat < 0x80 then (decodeUtf8 rest).map (Char.ofNat a.toNat :: ·)
    else if a.toNat < 0xC0 then none
    else if a.toNat < 0xE0 then
      match rest with
      | b :: rest => do
        let c ← scalar? 0x80 ((a.toNat - 0xC0) * 0x40 + (← continuation? b))
        return c :: (← decodeUtf8 rest)
      | _ => none
    else if a.toNat < 0xF0 then
      match rest with
      | b :: c :: rest => do
        let d ← scalar? 0x800
          (((a.toNat - 0xE0) * 0x40 + (← continuation? b)) * 0x40 + (← continuation? c))
        return d :: (← decodeUtf8 rest)
      | _ => none
    else if a.toNat < 0xF8 then
      match rest with
      | b :: c :: d :: rest => do
        let e ← scalar? 0x10000
          ((((a.toNat - 0xF0) * 0x40 + (← continuation? b)) * 0x40 + (← continuation? c)) * 0x40 +
            (← continuation? d))
        return e :: (← decodeUtf8 rest)
      | _ => none
    else none

/-! ## Reading undoes writing -/

theorem toNat_bounds (c : Char) : c.toNat < 0x110000 ∧ ¬(0xD800 ≤ c.toNat ∧ c.toNat < 0xE000) := by
  have h := c.valid
  simp only [UInt32.isValidChar, Nat.isValidChar] at h
  change c.val.toNat < _ ∧ ¬(_ ≤ c.val.toNat ∧ c.val.toNat < _)
  omega

theorem toNat_byte {n : Nat} (h : n < 256) : (UInt8.ofNat n).toNat = n := by
  rw [UInt8.toNat_ofNat']; omega

theorem continuation?_byte {n : Nat} (h : n < 0x40) :
    continuation? (UInt8.ofNat (0x80 + n)) = some n := by
  rw [continuation?, toNat_byte (by omega), if_pos (by omega), Nat.add_sub_cancel_left]

/-- The number of a character is a character, and long enough for its form. -/
theorem scalar?_toNat {least : Nat} {c : Char} (h : least ≤ c.toNat) :
    scalar? least c.toNat = some c := by
  have := toNat_bounds c
  have hn : least ≤ c.toNat ∧ c.toNat < 0x110000 ∧ ¬(0xD800 ≤ c.toNat ∧ c.toNat < 0xE000) :=
    ⟨h, this⟩
  simp only [scalar?, hn, Char.ofNat_toNat, if_true, and_self, not_false_eq_true]

/-- **Reading a character undoes writing it.** -/
theorem decodeUtf8_utf8Char_append (c : Char) (rest : Bytes) :
    decodeUtf8 (utf8Char c ++ rest) = (decodeUtf8 rest).map (c :: ·) := by
  have hc := toNat_bounds c
  simp only [utf8Char]
  split
  · next h =>
    rw [List.singleton_append]
    rw [decodeUtf8.eq_def]
    simp only [toNat_byte (show c.toNat < 256 by omega), if_pos h, Char.ofNat_toNat]
  · split
    · next h₀ h =>
      simp only [List.cons_append, List.nil_append]
      rw [decodeUtf8, toNat_byte (by omega), if_neg (by omega), if_neg (by omega),
        if_pos (by omega)]
      simp only [continuation?_byte (show c.toNat % 0x40 < 0x40 by omega)]
      have : (0xC0 + c.toNat / 0x40 - 0xC0) * 0x40 + c.toNat % 0x40 = c.toNat := by omega
      simp only [Option.bind_eq_bind, Option.bind_some, this,
        scalar?_toNat (show 0x80 ≤ c.toNat by omega)]
      cases decodeUtf8 rest <;> rfl
    · split
      · next h₀ h₁ h =>
        simp only [List.cons_append, List.nil_append]
        rw [decodeUtf8, toNat_byte (by omega), if_neg (by omega), if_neg (by omega),
          if_neg (by omega), if_pos (by omega)]
        have : ((0xE0 + c.toNat / 0x1000 - 0xE0) * 0x40 + c.toNat / 0x40 % 0x40) * 0x40 +
          c.toNat % 0x40 = c.toNat := by omega
        simp only [continuation?_byte (show c.toNat % 0x40 < 0x40 by omega),
          continuation?_byte (show c.toNat / 0x40 % 0x40 < 0x40 by omega), Option.bind_eq_bind,
          Option.bind_some, this, scalar?_toNat (show 0x800 ≤ c.toNat by omega)]
        cases decodeUtf8 rest <;> rfl
      · next h₀ h₁ h₂ =>
        simp only [List.cons_append, List.nil_append]
        rw [decodeUtf8, toNat_byte (by omega), if_neg (by omega), if_neg (by omega),
          if_neg (by omega), if_neg (by omega), if_pos (by omega)]
        have : (((0xF0 + c.toNat / 0x40000 - 0xF0) * 0x40 + c.toNat / 0x1000 % 0x40) * 0x40 +
          c.toNat / 0x40 % 0x40) * 0x40 + c.toNat % 0x40 = c.toNat := by omega
        simp only [continuation?_byte (show c.toNat % 0x40 < 0x40 by omega),
          continuation?_byte (show c.toNat / 0x40 % 0x40 < 0x40 by omega),
          continuation?_byte (show c.toNat / 0x1000 % 0x40 < 0x40 by omega), Option.bind_eq_bind,
          Option.bind_some, this, scalar?_toNat (show 0x10000 ≤ c.toNat by omega)]
        cases decodeUtf8 rest <;> rfl

/-- **Reading a text undoes writing it**, character by character. -/
theorem decodeUtf8_utf8 (s : String) : decodeUtf8 (utf8 s) = some s.toList := by
  rw [utf8]
  induction s.toList with
  | nil => rfl
  | cons c rest ih => rw [List.flatMap_cons, decodeUtf8_utf8Char_append, ih, Option.map_some]

/-- Different texts have different bytes. -/
theorem utf8_inj {s t : String} : utf8 s = utf8 t ↔ s = t := by
  constructor
  · intro h
    have hchars := decodeUtf8_utf8 s
    rw [h, decodeUtf8_utf8] at hchars
    exact String.toList_inj.1 (Option.some.inj hchars).symm
  · rintro rfl
    rfl

/-! ## Line ends -/

/-- Line ends written as a line feed: a carriage return, alone or before a line feed, is one. -/
def unifyNewlines : List Char → List Char
  | [] => []
  | '\r' :: '\n' :: rest => '\n' :: unifyNewlines rest
  | '\r' :: rest => '\n' :: unifyNewlines rest
  | c :: rest => c :: unifyNewlines rest

/-- The text that a file of bytes holds, its line ends unified. -/
def ofFile? (b : Bytes) : Option String :=
  (decodeUtf8 b).map fun s => String.ofList (unifyNewlines s)

theorem unifyNewlines_eq_self : ∀ {s : List Char}, '\r' ∉ s → unifyNewlines s = s
  | [], _ => rfl
  | c :: rest, h => by
    obtain ⟨hc, hrest⟩ := not_or.1 (mt List.mem_cons.2 h)
    rw [unifyNewlines.eq_def]
    split
    · next heq => exact absurd heq (by simp)
    · next heq => exact absurd (List.cons.inj heq).1.symm hc
    · next heq => exact absurd (List.cons.inj heq).1.symm hc
    · next heq =>
      obtain ⟨rfl, rfl⟩ := List.cons.inj heq
      rw [unifyNewlines_eq_self hrest]

/-- **A text without carriage returns comes back from its bytes.** -/
theorem ofFile?_utf8 {s : String} (h : '\r' ∉ s.toList) : ofFile? (utf8 s) = some s := by
  rw [ofFile?, decodeUtf8_utf8, Option.map_some, unifyNewlines_eq_self h, String.ofList_toList]

end CoinPuzzles.Text
