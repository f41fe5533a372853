import CoinPuzzles.Command.Run
import CoinPuzzles.Proofs.Coin.Reading
import CoinPuzzles.Proofs.Value.JsonNumbers
import CoinPuzzles.Proofs.Value.JsonReadBack

/-!
# Proofs/Coin/Printing — the document of a bundle, printed

The texts in the document of a bundle are marked digits, which need no escapes, and its numbers are
the amounts.  Amounts that were read can be written (`Bundle.amount_lt_of_ofDocument`), so what is
printed for a bundle is one JSON document, which is read back as the bundle's (`Bundle.read_print`).
-/

namespace CoinPuzzles

open Json (Plain isPlain)

/-! ## Documents that need no escapes -/

theorem Bytes.plain_toValue {levels : Nat} (b : Bytes) : Plain levels b.toValue := by
  have hdigit : ∀ n < 16, isPlain (hexDigit n) = true := by decide
  refine .text fun c hc => ?_
  rw [toList_toMarkedHex, List.mem_cons, List.mem_cons] at hc
  obtain rfl | rfl | hc := hc
  · decide
  · decide
  · obtain ⟨x, -, hx⟩ := List.mem_flatMap.1 hc
    have hlt := x.toNat_lt
    rw [hexByte, List.mem_cons, List.mem_singleton] at hx
    obtain rfl | rfl := hx
    · exact hdigit _ (by omega)
    · exact hdigit _ (by omega)

theorem length_toString_le {n : Nat} (h : n < 10 ^ Numeral.digitLimit) :
    (toString n).length ≤ Numeral.digitLimit :=
  (Nat.length_repr_le_iff (by decide)).2 h

theorem Coin.plain_toDocument {levels : Nat} {c : Coin} (h : c.amount < 10 ^ Numeral.digitLimit) :
    Plain (levels + 1) c.toDocument := by
  refine .ofNames ["parent_coin_info", "puzzle_hash", "amount"] rfl (by decide) (by decide) ?_
  simp only [List.forall_mem_cons, List.not_mem_nil, false_imp_iff, implies_true, and_true]
  exact ⟨Bytes.plain_toValue _, Bytes.plain_toValue _, .natural (length_toString_le h)⟩

/-- The document of a spend has that of its coin one level further in. -/
theorem Spend.plain_toDocument {levels : Nat} {s : Spend}
    (h : s.coin.amount < 10 ^ Numeral.digitLimit) : Plain (levels + 2) s.toDocument := by
  refine .ofNames ["coin", "puzzle_reveal", "solution"] rfl (by decide) (by decide) ?_
  simp only [List.forall_mem_cons, List.not_mem_nil, false_imp_iff, implies_true, and_true]
  exact ⟨Coin.plain_toDocument h, Bytes.plain_toValue _, Bytes.plain_toValue _⟩

namespace Bundle

/-- **The document of a bundle is plain**, with its spends in a list two levels further in. -/
theorem plain_toDocument {levels : Nat} {b : Bundle}
    (h : ∀ s ∈ b.spends, s.coin.amount < 10 ^ Numeral.digitLimit) :
    Plain (levels + 4) b.toDocument := by
  refine .ofNames ["aggregated_signature", "coin_spends"] rfl (by decide) (by decide) ?_
  simp only [List.forall_mem_cons, List.not_mem_nil, false_imp_iff, implies_true, and_true]
  refine ⟨Bytes.plain_toValue _, .list fun v hv => ?_⟩
  obtain ⟨s, hs, rfl⟩ := List.mem_map.1 hv
  exact Spend.plain_toDocument (h s hs)

/-- **What is printed for a bundle is one document, the bundle's**, in either form, if its amounts
can be written. -/
theorem read_print {b : Bundle} (h : ∀ s ∈ b.spends, s.coin.amount < 10 ^ Numeral.digitLimit)
    (pretty : Bool) : Json.read (Command.print pretty b.toDocument) = .ok b.toDocument := by
  have hplain : Plain Json.nestingLimit b.toDocument := plain_toDocument h
  have hnewline : ∀ c ∈ ['\n'], Json.isGap c = true := List.forall_mem_singleton.2 rfl
  rw [Command.print]
  cases pretty with
  | false => exact (Json.reads_compact hplain).readWithin hnewline
  | true => exact (Json.reads_indented hplain 0).readWithin hnewline

/-- **A file keeps what is printed for a bundle.** -/
theorem ofFile?_print {b : Bundle} (h : ∀ s ∈ b.spends, s.coin.amount < 10 ^ Numeral.digitLimit)
    (pretty : Bool) : Text.ofFile? (Text.utf8 (Command.print pretty b.toDocument)) =
      some (Command.print pretty b.toDocument) := by
  have hplain : Plain 4 b.toDocument := plain_toDocument h
  refine Text.ofFile?_utf8 fun hreturn => ?_
  rw [Command.print, String.toList_append, List.mem_append] at hreturn
  obtain hreturn | hreturn := hreturn
  · cases pretty with
    | false => exact Json.ne_return_compact hplain _ hreturn rfl
    | true => exact Json.ne_return_indented hplain 0 _ hreturn rfl
  · exact absurd hreturn (by decide)

end Bundle

/-! ## Amounts that were read -/

/-- **A coin that was read from a limited document has an amount that can be written.** -/
theorem Coin.amount_lt_of_ofDocument {v : Value} {c : Coin} (hv : v.Limited)
    (h : ofDocument v = .ok c) : c.amount < 10 ^ Numeral.digitLimit := by
  obtain ⟨_, _, amount, -, -, -, -, hamount, hinteger⟩ := ofDocument_eq_ok_iff.1 h
  exact (hv.field hamount).natAbs_toInteger_lt hinteger

theorem Spend.amount_lt_of_ofDocument {v : Value} {s : Spend} (hv : v.Limited)
    (h : ofDocument v = .ok s) : s.coin.amount < 10 ^ Numeral.digitLimit := by
  obtain ⟨coin, _, _, hcoin, hread, -⟩ := ofDocument_eq_ok_iff.1 h
  exact Coin.amount_lt_of_ofDocument (hv.field hcoin) hread

/-- **Every amount that is read from a limited document can be written.** -/
theorem Bundle.amount_lt_of_ofDocument {d : Value} {b : Bundle} (hd : d.Limited)
    (h : ofDocument d = .ok b) : ∀ s ∈ b.spends, s.coin.amount < 10 ^ Numeral.digitLimit := by
  obtain ⟨items, ⟨entries, rfl, hitems⟩, hspends⟩ := (ofDocument_eq_ok_iff_readAs.1 h).spends
  intro s hs
  obtain ⟨v, hv, hread⟩ := Outcome.exists_of_mem_forall₂ hspends hs
  have hlist : ((Value.find? "coin_spends" entries).getD (.list [])).Limited := by
    cases hfind : Value.find? "coin_spends" entries with
    | none => exact .list (by simp)
    | some w => exact hd.find? hfind
  exact Spend.amount_lt_of_ofDocument (hlist.iterate hitems v hv)
    (Spend.ofDocument_eq_ok_iff_readAs.2 hread)

end CoinPuzzles
