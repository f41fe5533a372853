import CoinPuzzles.Proofs.Coin.Reading

/-!
# Proofs/Coin/Faults — which documents of a bundle stop the reader with a fault

Most of what is wrong with a document is refused: a field that is missing, a byte string that is no
byte string, a numeral that is none.  A value of the wrong kind is not: what has no fields, no items
or no integer stops the reader with an error of its own (`DocumentError.isFault`).  The reader goes
through a document in a fixed order, so the first thing that it cannot read decides
(`Bundle.fails_ofDocument_iff`).
-/

namespace CoinPuzzles

open Outcome (Fails fails_bind_iff fails_error_iff fails_mapM_iff not_fails_error
  not_fails_mapError not_fails_ok)

/-- Whether an error is about the kind of a value, and not about the value. -/
def DocumentError.isFault : DocumentError → Bool
  | .infinite => true
  | .wrongShape => true
  | .notAMap => true
  | _ => false

/-! ## Values of the wrong kind -/

namespace Value

/-- Whether a value has fields. -/
def isMap : Value → Bool
  | map _ => true
  | _ => false

/-- Whether a value has items. -/
def hasItems : Value → Bool
  | list _ => true
  | text _ => true
  | bytes _ => true
  | map _ => true
  | _ => false

/-- Whether a value is of a kind that has integers, which an infinite number is not. -/
def hasInteger : Value → Bool
  | bool _ => true
  | int _ => true
  | text _ => true
  | bytes _ => true
  | float (.infinite _) => false
  | float _ => true
  | _ => false

variable {v : Value}

/-- A field breaks only where there is no map to look it up in; a missing one is refused. -/
theorem fails_field_iff {name : String} :
    Fails DocumentError.isFault (v.field name) ↔ v.isMap = false := by
  cases v with
  | map entries =>
    refine iff_of_false ?_ (by simp [isMap])
    rw [field]
    split
    · exact not_fails_ok
    · exact not_fails_error rfl
  | _ => exact iff_of_true (fails_error_iff.2 rfl) rfl

/-- A value breaks as a list exactly if nothing can be taken from it one by one. -/
theorem fails_iterate_iff : Fails DocumentError.isFault v.iterate ↔ v.hasItems = false := by
  cases v with
  | list items => exact iff_of_false not_fails_ok (by simp [hasItems])
  | text s => exact iff_of_false not_fails_ok (by simp [hasItems])
  | bytes b => exact iff_of_false not_fails_ok (by simp [hasItems])
  | map entries => exact iff_of_false not_fails_ok (by simp [hasItems])
  | _ => exact iff_of_true (fails_error_iff.2 rfl) rfl

/-- A value breaks as an integer exactly if it is of a kind without integers, or infinite. -/
theorem fails_toInteger_iff : Fails DocumentError.isFault v.toInteger ↔ v.hasInteger = false := by
  cases v with
  | bool b => exact iff_of_false not_fails_ok (by simp [hasInteger])
  | int n => exact iff_of_false not_fails_ok (by simp [hasInteger])
  | text s => exact iff_of_false (not_fails_mapError (fun _ => rfl) _) (by simp [hasInteger])
  | bytes b => exact iff_of_false (not_fails_mapError (fun _ => rfl) _) (by simp [hasInteger])
  | float x =>
    cases x with
    | finite negative m e => exact iff_of_false not_fails_ok (by simp [hasInteger])
    | infinite negative => exact iff_of_true (fails_error_iff.2 rfl) rfl
    | nan => exact iff_of_false (not_fails_error rfl) (by simp [hasInteger])
  | _ => exact iff_of_true (fails_error_iff.2 rfl) rfl

/-- What is read through its text is refused and no more, also if it has none. -/
theorem not_fails_written {α : Type} {f : String → Except HexError α} :
    ¬ Fails DocumentError.isFault
      (v.write.mapError .numeral >>= fun text => (f text).mapError .hex) := by
  rw [fails_bind_iff]
  rintro (h | ⟨text, -, h⟩)
  · exact not_fails_mapError (fun _ => rfl) _ h
  · exact not_fails_mapError (fun _ => rfl) _ h

/-- A value never breaks as bytes: all that can go wrong with a text is refused. -/
theorem not_fails_toBytes : ¬ Fails DocumentError.isFault v.toBytes := not_fails_written

theorem not_fails_toBytesSized {size : Nat} :
    ¬ Fails DocumentError.isFault (v.toBytesSized size) := not_fails_written

end Value

/-! ## Documents with such values -/

namespace Coin

/-- **The document of a coin has a value of the wrong kind where the reader looks first**: it is no
map, or its two hashes are fine and its amount is of a kind that has no integer. -/
def Faulty (v : Value) : Prop :=
  v.isMap = false ∨ ∃ parent puzzleHash amount b c, v.field "parent_coin_info" = .ok parent ∧
    parent.Spells b ∧ b.length = 32 ∧ v.field "puzzle_hash" = .ok puzzleHash ∧
    puzzleHash.Spells c ∧ c.length = 32 ∧ v.field "amount" = .ok amount ∧
    amount.hasInteger = false

/-- **A document breaks as a coin exactly if it is faulty**, looking at its fields in their
order. -/
theorem fails_ofDocument_iff {v : Value} :
    Fails DocumentError.isFault (ofDocument v) ↔ Faulty v := by
  have hcoin {p h : Bytes} {n : Int} :
      ¬ Fails DocumentError.isFault ((Coin.of? p h n).mapError .coin) :=
    not_fails_mapError (fun _ => rfl) _
  simp only [ofDocument, fails_bind_iff, Value.fails_field_iff, Value.not_fails_toBytesSized,
    Value.fails_toInteger_iff, hcoin, Value.toBytesSized_eq_ok_iff, Value.toBytes_eq_ok_iff]
  cases hmap : v.isMap with
  | false => exact iff_of_true (.inl rfl) (.inl hmap)
  | true =>
    rw [Faulty, hmap]
    simp only [Bool.true_eq_false, false_or, and_false, exists_false, or_false]
    constructor
    · rintro ⟨_, hp, _, ⟨hb, hlb⟩, _, hh, _, ⟨hc, hlc⟩, _, ha, hkind⟩
      exact ⟨_, _, _, _, _, hp, hb, hlb, hh, hc, hlc, ha, hkind⟩
    · rintro ⟨_, _, _, _, _, hp, hb, hlb, hh, hc, hlc, ha, hkind⟩
      exact ⟨_, hp, _, ⟨hb, hlb⟩, _, hh, _, ⟨hc, hlc⟩, _, ha, hkind⟩

end Coin

namespace Spend

/-- The document of a spend has a value of the wrong kind where the reader looks first: it is no
map, or that of its coin has one. -/
def Faulty (v : Value) : Prop :=
  v.isMap = false ∨ ∃ coin, v.field "coin" = .ok coin ∧ Coin.Faulty coin

/-- **A document breaks as a spend exactly if it is faulty**, in its coin or as a whole. -/
theorem fails_ofDocument_iff {v : Value} :
    Fails DocumentError.isFault (ofDocument v) ↔ Faulty v := by
  simp only [ofDocument, fails_bind_iff, Value.fails_field_iff, Value.not_fails_toBytes,
    Coin.fails_ofDocument_iff]
  cases hmap : v.isMap with
  | false => exact iff_of_true (.inl rfl) (.inl hmap)
  | true =>
    rw [Faulty, hmap]
    have hpure {s : Spend} : ¬ Fails DocumentError.isFault (pure s : Except DocumentError Spend) :=
      not_fails_ok
    simp only [Bool.true_eq_false, false_or, hpure, and_false, exists_false, or_false]

end Spend

namespace Bundle

/-- **The document of a bundle has a value of the wrong kind where the reader looks first**: its
signature is fine, and its list of spends has no items, or the first of them that is not read is
that of a spend with such a value. -/
def Faulty (entries : List (Value × Value)) : Prop :=
  (∃ signature, ((Value.find? "aggregated_signature" entries).getD .null).Signs signature) ∧
    (((Value.find? "coin_spends" entries).getD (.list [])).hasItems = false ∨
      ∃ done v rest, Lists (.map entries) (done ++ v :: rest) ∧
        (∀ u ∈ done, ∃ s, Spend.ReadAs Coin.CutsOff u s) ∧ Spend.Faulty v)

/-- **A map breaks as a bundle exactly if it is faulty**: in its list, or in the first item that is
no spend. -/
theorem fails_ofDocument_iff {entries : List (Value × Value)} :
    Fails DocumentError.isFault (ofDocument (.map entries)) ↔ Faulty entries := by
  have hsignature {v : Value} : ¬ Fails DocumentError.isFault
      (if v.truthy then v.toBytes else .ok [] : Except DocumentError Bytes) := by
    split
    · exact Value.not_fails_toBytes
    · exact not_fails_ok
  have hpure {b : Bundle} : ¬ Fails DocumentError.isFault (pure b : Except DocumentError Bundle) :=
    not_fails_ok
  simp only [ofDocument_map, fails_bind_iff, hsignature, hpure, Value.fails_iterate_iff,
    fails_mapM_iff, signature_eq_ok_iff, Spend.fails_ofDocument_iff,
    Spend.ofDocument_eq_ok_iff_readAs, false_or, and_false, exists_false, or_false,
    exists_and_right, Faulty]
  refine and_congr_right fun _ => or_congr_right ?_
  simp only [lists_map_iff]
  constructor
  · rintro ⟨_, hitems, done, v, ⟨rest, rfl⟩, hv⟩
    exact ⟨done, v, ⟨rest, hitems⟩, hv⟩
  · rintro ⟨done, v, ⟨rest, hitems⟩, hv⟩
    exact ⟨_, hitems, done, v, ⟨rest, rfl⟩, hv⟩

end Bundle

end CoinPuzzles
