import CoinPuzzles.Proofs.Number.Magnitude
import CoinPuzzles.Proofs.Outcome
import CoinPuzzles.Proofs.Program.AssemblyAtoms
import CoinPuzzles.Proofs.Value.Scalars
import CoinPuzzles.Value.JsonReader

/-!
# Proofs/Value/JsonNumbers — how large a number in a JSON document can be

An integer has as many digits as a numeral may have at most, and a number with a fraction or an
exponent is limited by its format.  So every integer that is taken from a document that was read can
be written again (`Value.Limited.natAbs_toInteger_lt`, `Json.limited_of_read`).
-/

namespace CoinPuzzles

namespace Value

/-- **Every number in the value comes to an integer that can be written.**  Byte strings and points
in time are left out: no JSON document holds any. -/
inductive Limited : Value → Prop
  | null : Limited null
  | bool (b : Bool) : Limited (bool b)
  | int {n : Int} (h : n.natAbs < 10 ^ Numeral.digitLimit) : Limited (int n)
  | float {x : Binary64}
    (h : ∀ r, x.toRat? = some r → (wholePart r).natAbs < 10 ^ Numeral.digitLimit) :
    Limited (float x)
  | text (s : String) : Limited (text s)
  | list {items : List Value} (h : ∀ v ∈ items, Limited v) : Limited (list items)
  | map {entries : List (Value × Value)} (hkeys : ∀ e ∈ entries, Limited e.1)
    (hvalues : ∀ e ∈ entries, Limited e.2) : Limited (map entries)

/-- Every number in the keys and values of entries comes to an integer that can be written. -/
def EntriesLimited (entries : List (Value × Value)) : Prop :=
  ∀ e ∈ entries, e.1.Limited ∧ e.2.Limited

namespace Limited

/-- **An integer from a limited value is limited too**, whether the value is a number or a text that
is read as one. -/
theorem natAbs_toInteger_lt {v : Value} {n : Int} (hv : v.Limited) (h : v.toInteger = .ok n) :
    n.natAbs < 10 ^ Numeral.digitLimit := by
  obtain ⟨r, hr, rfl⟩ := toInteger_eq_ok_iff.1 h
  cases hr with
  | no =>
    rw [← Int.cast_zero, wholePart_intCast]
    exact Nat.pow_pos (by decide)
  | yes =>
    rw [← Int.cast_one, wholePart_intCast]
    exact Nat.one_lt_pow (by decide) (by decide)
  | int n =>
    cases hv with
    | int hn => rwa [wholePart_intCast]
  | float hr =>
    cases hv with
    | float hx => exact hx _ hr
  | numeral hs =>
    rw [wholePart_intCast]
    exact Numeral.natAbs_lt_of_read (Numeral.read_of_spells hs)
  | ascii _ _ => nomatch hv

/-- What is found under a name is one of the values in the map. -/
theorem find? {name : String} {entries : List (Value × Value)} (hv : (Value.map entries).Limited)
    {w : Value} (h : Value.find? name entries = some w) : w.Limited := by
  rw [Value.find?] at h
  obtain ⟨e, he, rfl⟩ := Option.map_eq_some_iff.1 h
  cases hv with
  | map _ hvalues => exact hvalues e (List.mem_of_find?_eq_some he)

theorem field {name : String} {v w : Value} (hv : v.Limited) (h : v.field name = .ok w) :
    w.Limited := by
  rw [Value.field.eq_def] at h
  split at h
  · split at h
    · next hfind =>
      obtain rfl := Except.ok.inj h
      exact hv.find? hfind
    · exact absurd h Outcome.error_ne_ok
  · exact absurd h Outcome.error_ne_ok

/-- The items of a limited value are limited: those of a list, the keys of a map or the characters
of a text. -/
theorem iterate {v : Value} {items : List Value} (hv : v.Limited) (h : v.iterate = .ok items) :
    ∀ w ∈ items, w.Limited := by
  rw [Value.iterate.eq_def] at h
  split at h
  · obtain rfl := Except.ok.inj h
    cases hv with
    | list hitems => exact hitems
  · obtain rfl := Except.ok.inj h
    intro w hw
    obtain ⟨c, -, rfl⟩ := List.mem_map.1 hw
    exact .text _
  · nomatch hv
  · obtain rfl := Except.ok.inj h
    intro w hw
    obtain ⟨e, he, rfl⟩ := List.mem_map.1 hw
    cases hv with
    | map hkeys _ => exact hkeys e he
  · exact absurd h Outcome.error_ne_ok

/-- Putting a limited entry among limited ones leaves them limited, in the place of another or at
the end. -/
theorem put {k v : Value} {entries : List (Value × Value)} (hk : k.Limited) (hv : v.Limited)
    (h : EntriesLimited entries) : EntriesLimited (Value.put k v entries) := by
  induction entries with
  | nil => exact List.forall_mem_cons.2 ⟨⟨hk, hv⟩, h⟩
  | cons e entries ih =>
    obtain ⟨he, hentries⟩ := List.forall_mem_cons.1 h
    rw [Value.put]
    split
    · exact List.forall_mem_cons.2 ⟨⟨he.1, hv⟩, hentries⟩
    · exact List.forall_mem_cons.2 ⟨he, ih hentries⟩

end Limited

end Value

/-! ## What is read -/

namespace Json

open Outcome (error_ne_ok)

/-- A number is below the power of ten with as many zeros as it has digits. -/
theorem ofAscii_lt {s : List Char} (h : ∀ c ∈ s, c.isDigit = true) :
    Numeral.ofAscii s < 10 ^ s.length := by
  rw [← List.length_map fun c : Char => c.toNat - 48]
  refine Numeral.ofDigits_lt fun d hd => ?_
  obtain ⟨c, hc, rfl⟩ := List.mem_map.1 hd
  have hle : c.toNat ≤ 57 := (Char.isDigit_iff_toNat.1 (h c hc)).2
  omega

theorem limited_ofDecimal (negative : Bool) (m : Nat) (e : Int) :
    (Value.float (.ofDecimal negative m e)).Limited :=
  .float fun _ hr => Binary64.wholePart_ofDecimal_lt hr

/-- **A number that is read is limited**: the digits of an integer were counted before it was taken,
and no float is worth as much as the limit. -/
theorem limited_of_number {negative : Bool} {s r : List Char} {v : Value}
    (h : number negative s = .ok (v, r)) : v.Limited := by
  have hdigits : ∀ c ∈ (if ((s.takeWhile Char.isDigit).head? == some '0') = true then ['0']
      else s.takeWhile Char.isDigit), c.isDigit = true := by
    split
    · exact List.forall_mem_singleton.2 rfl
    · exact fun c => List.mem_takeWhile_imp
  rw [number] at h
  generalize (if ((s.takeWhile Char.isDigit).head? == some '0') = true then ['0']
    else s.takeWhile Char.isDigit) = whole at h hdigits
  dsimp only at h
  split at h
  · exact absurd h error_ne_ok
  · split at h
    · split at h
      · exact absurd h error_ne_ok
      · next hlimit =>
        obtain ⟨rfl, -⟩ := Prod.mk.inj (Except.ok.inj h)
        refine .int ?_
        rw [apply_ite Int.natAbs, Int.natAbs_neg, ite_self, Int.natAbs_natCast]
        exact (ofAscii_lt hdigits).trans_le
          (Nat.pow_le_pow_right (by decide) (Nat.not_lt.1 hlimit))
    · obtain ⟨rfl, -⟩ := Prod.mk.inj (Except.ok.inj h)
      exact limited_ofDecimal _ _ _

theorem limited_of_mem_words {word : String} {v : Value} (h : (word, v) ∈
    [("null", Value.null), ("true", .bool true), ("false", .bool false), ("NaN", .float .nan),
      ("Infinity", .float (.infinite false)), ("-Infinity", .float (.infinite true))]) :
    v.Limited := by
  simp only [List.mem_cons, List.not_mem_nil, Prod.mk.injEq, or_false] at h
  obtain ⟨-, rfl⟩ | ⟨-, rfl⟩ | ⟨-, rfl⟩ | ⟨-, rfl⟩ | ⟨-, rfl⟩ | ⟨-, rfl⟩ := h
  · exact .null
  · exact .bool true
  · exact .bool false
  · exact .float nofun
  · exact .float nofun
  · exact .float nofun

theorem limited_of_scalar {s r : List Char} {v : Value} (h : scalar s = .ok (v, r)) :
    v.Limited := by
  rw [scalar.eq_def] at h
  dsimp only at h
  split at h
  · next found hfound =>
    obtain rfl := Except.ok.inj h
    obtain ⟨⟨word, w⟩, hword, hfound⟩ := List.exists_of_findSome?_eq_some hfound
    obtain ⟨rest, -, heq⟩ := Option.map_eq_some_iff.1 hfound
    obtain ⟨rfl, -⟩ := Prod.mk.inj heq
    exact limited_of_mem_words hword
  · split at h
    · exact limited_of_number h
    · exact limited_of_number h

/-- What the three readers of values read, with some fuel, is limited. -/
structure ReadsLimited (fuel : Nat) : Prop where
  value {room : Nat} {s r : List Char} {v : Value} (h : value fuel room s = .ok (v, r)) : v.Limited
  items {room : Nat} {s r : List Char} {vs : List Value} (h : items fuel room s = .ok (vs, r)) :
    ∀ v ∈ vs, v.Limited
  entries {room : Nat} {s r : List Char} {es es' : List (Value × Value)}
    (hes : Value.EntriesLimited es) (h : entries fuel room es s = .ok (es', r)) :
    Value.EntriesLimited es'

section

variable {fuel room : Nat} {s r : List Char}

/-- A value is a text, a list or a map of what was read one level further in, or flat. -/
theorem ReadsLimited.value_succ {v : Value} (ih : ReadsLimited fuel)
    (h : Json.value (fuel + 1) room s = .ok (v, r)) : v.Limited := by
  rw [Json.value.eq_def] at h
  dsimp only at h
  split at h
  · split at h
    · obtain ⟨rfl, -⟩ := Prod.mk.inj (Except.ok.inj h)
      exact .text _
    · exact absurd h error_ne_ok
  · split at h
    · exact absurd h error_ne_ok
    · split at h
      · obtain ⟨rfl, -⟩ := Prod.mk.inj (Except.ok.inj h)
        exact .list (by simp)
      · obtain ⟨⟨vs, r'⟩, hitems, h⟩ := Outcome.map_eq_ok_iff.1 h
        obtain ⟨rfl, -⟩ := Prod.mk.inj h
        exact .list (ih.items hitems)
  · split at h
    · exact absurd h error_ne_ok
    · split at h
      · obtain ⟨rfl, -⟩ := Prod.mk.inj (Except.ok.inj h)
        exact .map (by simp) (by simp)
      · obtain ⟨⟨es, r'⟩, hentries, h⟩ := Outcome.map_eq_ok_iff.1 h
        obtain ⟨rfl, -⟩ := Prod.mk.inj h
        have hes := ih.entries (by simp [Value.EntriesLimited]) hentries
        exact .map (fun e he => (hes e he).1) fun e he => (hes e he).2
  · exact limited_of_scalar h

/-- The items of a list are its first one and those that were read after it. -/
theorem ReadsLimited.items_succ {vs : List Value} (ih : ReadsLimited fuel)
    (h : Json.items (fuel + 1) room s = .ok (vs, r)) : ∀ v ∈ vs, v.Limited := by
  rw [Json.items] at h
  obtain ⟨⟨v, r'⟩, hvalue, h⟩ := Outcome.bind_eq_ok_iff.1 h
  dsimp only at h
  split at h
  · obtain ⟨⟨vs', r₂⟩, hitems, h⟩ := Outcome.bind_eq_ok_iff.1 h
    obtain ⟨rfl, -⟩ := Prod.mk.inj (Except.ok.inj h)
    exact List.forall_mem_cons.2 ⟨ih.value hvalue, ih.items hitems⟩
  · obtain ⟨rfl, -⟩ := Prod.mk.inj (Except.ok.inj h)
    exact List.forall_mem_cons.2 ⟨ih.value hvalue, by simp⟩
  · exact absurd h error_ne_ok

/-- The entries of a map are those read before, with one more that is limited too. -/
theorem ReadsLimited.entries_succ {es es' : List (Value × Value)} (ih : ReadsLimited fuel)
    (hes : Value.EntriesLimited es) (h : Json.entries (fuel + 1) room es s = .ok (es', r)) :
    Value.EntriesLimited es' := by
  rw [Json.entries.eq_def] at h
  dsimp only at h
  split at h
  · split at h
    · exact absurd h error_ne_ok
    · next cs r' hbody =>
      split at h
      · obtain ⟨⟨v, r₂⟩, hvalue, h⟩ := Outcome.bind_eq_ok_iff.1 h
        have hput := Value.Limited.put (.text (String.ofList cs)) (ih.value hvalue) hes
        dsimp only at h
        split at h
        · exact ih.entries hput h
        · obtain ⟨rfl, -⟩ := Prod.mk.inj (Except.ok.inj h)
          exact hput
        · exact absurd h error_ne_ok
      · exact absurd h error_ne_ok
  · exact absurd h error_ne_ok

end

/-- **The readers of values read limited values.** -/
theorem readsLimited : ∀ fuel : Nat, ReadsLimited fuel
  | 0 => by
    refine ⟨fun h => ?_, fun h => ?_, fun _ h => ?_⟩
    · rw [value] at h
      exact absurd h error_ne_ok
    · rw [items] at h
      exact absurd h error_ne_ok
    · rw [entries] at h
      exact absurd h error_ne_ok
  | fuel + 1 =>
    have ih := readsLimited fuel
    ⟨ih.value_succ, ih.items_succ, ih.entries_succ⟩

/-- **Every number in a document that is read comes to an integer that can be written.** -/
theorem limited_of_read {text : String} {v : Value} (h : read text = .ok v) : v.Limited := by
  rw [read, readWithin] at h
  obtain ⟨⟨w, r⟩, hvalue, h⟩ := Outcome.bind_eq_ok_iff.1 h
  dsimp only at h
  split at h
  · obtain rfl := Except.ok.inj h
    exact (readsLimited _).value hvalue
  · exact absurd h error_ne_ok

end Json

end CoinPuzzles
