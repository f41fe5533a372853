import CoinPuzzles.Proofs.Coin.Triples
import CoinPuzzles.Proofs.Value.Scalars

/-!
# Proofs/Coin/Interchange — a bundle and its document

Three readers are nested: a bundle's for its spends, a spend's for its coin.  Each succeeds exactly
if its fields are there and read (`Coin.ofDocument_eq_ok_iff`, `Spend.ofDocument_eq_ok_iff`,
`Bundle.ofDocument_eq_ok_iff`).  Marked digits are never the empty text, so even no signature is
written as a text that counts as true, and comes back through its digits.  Main statement: reading
undoes writing (`Bundle.document_fixed`).
-/

namespace CoinPuzzles

/-! ## Fields and byte strings -/

namespace Value

theorem find?_object (name : String) : ∀ fields : List (String × Value),
    find? name (fields.map fun (k, v) => (text k, v)) = fields.lookup name
  | [] => rfl
  | (k, v) :: fields => by
    have ih := find?_object name fields
    rw [find?] at ih ⊢
    rw [List.map_cons, List.find?_cons, List.lookup_cons]
    dsimp only
    by_cases h : k = name
    · rw [beq_iff_eq.2 h, beq_iff_eq.2 h.symm]
      rfl
    · rw [beq_eq_false_iff_ne.2 h, beq_eq_false_iff_ne.2 (Ne.symm h)]
      exact ih

theorem field_object {name : String} {fields : List (String × Value)} {v : Value}
    (h : fields.lookup name = some v) : (object fields).field name = .ok v := by
  rw [object, field, find?_object, h]

end Value

namespace Bytes

/-- **A byte string comes back from its marked digits.** -/
theorem toBytes_toValue (b : Bytes) : b.toValue.toBytes = .ok b :=
  Value.toBytes_eq_ok_iff.2 (.text (ofHex_toMarkedHex b))

/-- The mark alone makes a text that is not empty. -/
theorem truthy_toValue (b : Bytes) : b.toValue.truthy = true := by
  rw [toValue, Value.truthy, bne_iff_ne]
  intro h
  have hchars : '0' :: 'x' :: hexChars b = [] := by
    rw [← toList_toMarkedHex, h, String.toList_empty]
  exact absurd hchars (List.cons_ne_nil _ _)

end Bytes

/-! ## Coins -/

namespace Coin

/-- **A document is a coin's exactly if its three fields are there and read.** -/
theorem ofDocument_eq_ok_iff {v : Value} {c : Coin} :
    ofDocument v = .ok c ↔ ∃ parent puzzleHash amount,
      v.field "parent_coin_info" = .ok parent ∧ parent.toBytes = .ok c.parent ∧
      v.field "puzzle_hash" = .ok puzzleHash ∧ puzzleHash.toBytes = .ok c.puzzleHash ∧
      v.field "amount" = .ok amount ∧ amount.toInteger = .ok c.amount := by
  simp only [ofDocument, Outcome.bind_eq_ok_iff, Outcome.mapError_eq_ok_iff, of?_eq_ok_iff,
    Value.toBytesSized_eq_ok_iff]
  constructor
  · rintro ⟨parent, hparent, _, ⟨hparentBytes, -⟩, puzzleHash, hhash, _, ⟨hhashBytes, -⟩, amount,
      hamount, _, hinteger, rfl, rfl, rfl⟩
    exact ⟨parent, puzzleHash, amount, hparent, hparentBytes, hhash, hhashBytes, hamount, hinteger⟩
  · rintro ⟨parent, puzzleHash, amount, hparent, hparentBytes, hhash, hhashBytes, hamount, hinteger⟩
    exact ⟨parent, hparent, _, ⟨hparentBytes, c.length_parent⟩, puzzleHash, hhash, _,
      ⟨hhashBytes, c.length_puzzleHash⟩, amount, hamount, _, hinteger, rfl, rfl, rfl⟩

/-- **A coin comes back from its document.** -/
theorem ofDocument_toDocument (c : Coin) : ofDocument c.toDocument = .ok c :=
  ofDocument_eq_ok_iff.2 ⟨_, _, _, Value.field_object rfl, Bytes.toBytes_toValue c.parent,
    Value.field_object rfl, Bytes.toBytes_toValue c.puzzleHash, Value.field_object rfl, rfl⟩

end Coin

/-! ## Spends -/

namespace Spend

/-- **A document is a spend's exactly if its three fields are there and read.** -/
theorem ofDocument_eq_ok_iff {v : Value} {s : Spend} :
    ofDocument v = .ok s ↔ ∃ coin puzzleReveal solution,
      v.field "coin" = .ok coin ∧ Coin.ofDocument coin = .ok s.coin ∧
      v.field "puzzle_reveal" = .ok puzzleReveal ∧ puzzleReveal.toBytes = .ok s.puzzleReveal ∧
      v.field "solution" = .ok solution ∧ solution.toBytes = .ok s.solution := by
  simp only [ofDocument, Outcome.bind_eq_ok_iff, Outcome.pure_eq_ok_iff]
  constructor
  · rintro ⟨coin, hcoin, _, hread, puzzleReveal, hreveal, _, hrevealBytes, solution, hsolution, _,
      hsolutionBytes, rfl⟩
    exact ⟨coin, puzzleReveal, solution, hcoin, hread, hreveal, hrevealBytes, hsolution,
      hsolutionBytes⟩
  · rintro ⟨coin, puzzleReveal, solution, hcoin, hread, hreveal, hrevealBytes, hsolution,
      hsolutionBytes⟩
    exact ⟨coin, hcoin, _, hread, puzzleReveal, hreveal, _, hrevealBytes, solution, hsolution, _,
      hsolutionBytes, rfl⟩

/-- **A spend comes back from its document.** -/
theorem ofDocument_toDocument (s : Spend) : ofDocument s.toDocument = .ok s :=
  ofDocument_eq_ok_iff.2 ⟨_, _, _, Value.field_object rfl, Coin.ofDocument_toDocument s.coin,
    Value.field_object rfl, Bytes.toBytes_toValue s.puzzleReveal, Value.field_object rfl,
    Bytes.toBytes_toValue s.solution⟩

/-- Documents written one by one are read one by one, however many there are. -/
theorem forall₂_toDocument : ∀ spends : List Spend,
    List.Forall₂ (fun v s => ofDocument v = .ok s) (spends.map toDocument) spends
  | [] => .nil
  | s :: spends => .cons (ofDocument_toDocument s) (forall₂_toDocument spends)

end Spend

/-! ## Bundles -/

namespace Bundle

/-- The signature is read before the spends, in either case. -/
theorem ofDocument_map (entries : List (Value × Value)) :
    ofDocument (.map entries) =
      (if ((Value.find? "aggregated_signature" entries).getD .null).truthy then
          ((Value.find? "aggregated_signature" entries).getD .null).toBytes
        else .ok []) >>= fun signature =>
      ((Value.find? "coin_spends" entries).getD (.list [])).iterate >>= fun items =>
      items.mapM Spend.ofDocument >>= fun spends => pure ⟨signature, spends⟩ := by
  rw [ofDocument]
  split <;> rfl

/-- **A map is a bundle's document exactly if its signature, if it has one that counts as true, is a
byte string, and its list of spends, if it has one, reads element by element.** -/
theorem ofDocument_eq_ok_iff {entries : List (Value × Value)} {b : Bundle} :
    ofDocument (.map entries) = .ok b ↔ ∃ signature items,
      (Value.find? "aggregated_signature" entries).getD .null = signature ∧
      (if signature.truthy then signature.toBytes else .ok []) = .ok b.signature ∧
      ((Value.find? "coin_spends" entries).getD (.list [])).iterate = .ok items ∧
      List.Forall₂ (fun v s => Spend.ofDocument v = .ok s) items b.spends := by
  simp only [ofDocument_map, Outcome.bind_eq_ok_iff, Outcome.pure_eq_ok_iff, Outcome.mapM_eq_ok_iff]
  constructor
  · rintro ⟨_, hsignature, items, hitems, _, hspends, rfl⟩
    exact ⟨_, items, rfl, hsignature, hitems, hspends⟩
  · rintro ⟨_, items, rfl, hsignature, hitems, hspends⟩
    exact ⟨_, hsignature, items, hitems, _, hspends, rfl⟩

/-- **A bundle comes back from its document**, be it signed or not. -/
theorem ofDocument_toDocument (b : Bundle) : ofDocument b.toDocument = .ok b := by
  refine ofDocument_eq_ok_iff.2 ⟨b.signature.toValue, b.spends.map Spend.toDocument, ?_, ?_, ?_,
    Spend.forall₂_toDocument b.spends⟩
  · rw [Value.find?_object]
    rfl
  · rw [if_pos (Bytes.truthy_toValue _), Bytes.toBytes_toValue]
  · rw [Value.find?_object]
    rfl

/-- **The document of a bundle is fixed.**  Reading it gives the bundle back, whatever its
signature, its programs and its amounts and however many spends it has; writing that again changes
nothing. -/
theorem document_fixed (b : Bundle) :
    ofDocument b.toDocument = .ok b ∧
      (ofDocument b.toDocument).map toDocument = .ok b.toDocument := by
  refine ⟨ofDocument_toDocument b, ?_⟩
  rw [ofDocument_toDocument]
  rfl

/-- No signature is written as the mark alone. -/
example : toDocument ⟨[], []⟩ =
    .object [("aggregated_signature", .text "0x"), ("coin_spends", .list [])] := rfl

end Bundle

end CoinPuzzles
