import CoinPuzzles.Proofs.Coin.Identity
import CoinPuzzles.Proofs.Coin.Interchange
import CoinPuzzles.Proofs.Value.Scalars

/-!
# Proofs/Coin/Reading — what the document of a bundle says, and what is read from it

A bundle is its document's spend by spend and field by field, up to what becomes of the numbers that
are its amounts (`Bundle.ReadAs`).  The reader takes their whole parts: every amount is kept exactly
if all of them are whole, and else a fraction is cut off, so that −½ is read as zero
(`Bundle.ofDocument_readAs`).
-/

namespace CoinPuzzles

/-! ## What a document says -/

section Reading

/-- What a coin has of the number that its document gives as the amount: all of it. -/
def Coin.Keeps (r : ℚ) (amount : Nat) : Prop := r = amount

/-- What a coin has of the number that its document gives as the amount: its whole part, which is
zero for what lies between −1 and zero. -/
def Coin.CutsOff (r : ℚ) (amount : Nat) : Prop := -1 < r ∧ amount = ⌊r⌋₊

variable (rule : ℚ → Nat → Prop)

/-- A coin is its document's field by field, its amount by a rule. -/
structure Coin.ReadAs (v : Value) (c : Coin) : Prop where
  parent : ∃ w, v.field "parent_coin_info" = .ok w ∧ w.Spells c.parent
  puzzleHash : ∃ w, v.field "puzzle_hash" = .ok w ∧ w.Spells c.puzzleHash
  amount : ∃ w r, v.field "amount" = .ok w ∧ w.Denotes r ∧ rule r c.amount

/-- A spend is its document's field by field. -/
structure Spend.ReadAs (v : Value) (s : Spend) : Prop where
  coin : ∃ w, v.field "coin" = .ok w ∧ Coin.ReadAs rule w s.coin
  puzzleReveal : ∃ w, v.field "puzzle_reveal" = .ok w ∧ w.Spells s.puzzleReveal
  solution : ∃ w, v.field "solution" = .ok w ∧ w.Spells s.solution

/-- A signature is spelled by a value that counts as true, and empty for every other. -/
def Value.Signs (v : Value) (signature : Bytes) : Prop :=
  if v.truthy then v.Spells signature else signature = []

namespace Bundle

/-- The documents of the spends, in order; none if the field is missing. -/
def Lists (d : Value) (items : List Value) : Prop :=
  ∃ entries, d = .map entries ∧
    ((Value.find? "coin_spends" entries).getD (.list [])).iterate = .ok items

/-- **A bundle is its document's spend by spend**, one for each of the documents listed. -/
structure ReadAs (d : Value) (b : Bundle) : Prop where
  signature : ∃ entries, d = .map entries ∧
    ((Value.find? "aggregated_signature" entries).getD .null).Signs b.signature
  spends : ∃ items, Lists d items ∧ List.Forall₂ (Spend.ReadAs rule) items b.spends

/-- The document gives a number as the amount of a coin. -/
def Names (d : Value) (r : ℚ) : Prop :=
  ∃ items, Lists d items ∧ ∃ v ∈ items, ∃ coin w, v.field "coin" = .ok coin ∧
    coin.field "amount" = .ok w ∧ w.Denotes r

end Bundle

end Reading

/-! ## What is read -/

namespace Coin

/-- **A coin is read from a document exactly if each of its fields is**, with the amount cut off. -/
theorem ofDocument_eq_ok_iff_readAs {v : Value} {c : Coin} :
    ofDocument v = .ok c ↔ ReadAs CutsOff v c := by
  simp only [ofDocument_eq_ok_iff, Value.toBytes_eq_ok_iff, Value.toInteger_eq_ok_iff,
    wholePart_eq_natCast_iff]
  constructor
  · rintro ⟨_, _, _, hparent, hparentBytes, hhash, hhashBytes, hamount, r, hr, hrule⟩
    exact ⟨⟨_, hparent, hparentBytes⟩, ⟨_, hhash, hhashBytes⟩, ⟨_, r, hamount, hr, hrule⟩⟩
  · rintro ⟨⟨_, hparent, hparentBytes⟩, ⟨_, hhash, hhashBytes⟩, ⟨_, r, hamount, hr, hrule⟩⟩
    exact ⟨_, _, _, hparent, hparentBytes, hhash, hhashBytes, hamount, r, hr, hrule⟩

/-- All of a whole number is its whole part. -/
theorem Keeps.cutsOff {r : ℚ} {amount : Nat} (h : Keeps r amount) : CutsOff r amount := by
  obtain rfl : r = amount := h
  exact ⟨neg_one_lt_zero.trans_le (Nat.cast_nonneg amount), (Nat.floor_natCast amount).symm⟩

theorem CutsOff.keeps {n : ℤ} {amount : Nat} (h : CutsOff n amount) : Keeps n amount := by
  have hwhole : wholePart n = amount := wholePart_eq_natCast_iff.2 h
  rw [wholePart_intCast] at hwhole
  rw [Keeps, hwhole, Int.cast_natCast]

/-- A document that reads by one rule for amounts reads by any that allows its own amount. -/
theorem ReadAs.mono {rule rule' : ℚ → Nat → Prop} {v : Value} {c : Coin} (h : ReadAs rule v c)
    (hrule : ∀ w r, v.field "amount" = .ok w → w.Denotes r → rule r c.amount → rule' r c.amount) :
    ReadAs rule' v c where
  parent := h.parent
  puzzleHash := h.puzzleHash
  amount := by
    obtain ⟨w, r, hw, hr, hc⟩ := h.amount
    exact ⟨w, r, hw, hr, hrule w r hw hr hc⟩

end Coin

namespace Spend

/-- **A spend is read exactly if its coin is, and its two texts spell bytes.** -/
theorem ofDocument_eq_ok_iff_readAs {v : Value} {s : Spend} :
    ofDocument v = .ok s ↔ ReadAs Coin.CutsOff v s := by
  simp only [ofDocument_eq_ok_iff, Value.toBytes_eq_ok_iff, Coin.ofDocument_eq_ok_iff_readAs]
  constructor
  · rintro ⟨_, _, _, hcoin, hread, hreveal, hrevealBytes, hsolution, hsolutionBytes⟩
    exact ⟨⟨_, hcoin, hread⟩, ⟨_, hreveal, hrevealBytes⟩, ⟨_, hsolution, hsolutionBytes⟩⟩
  · rintro ⟨⟨_, hcoin, hread⟩, ⟨_, hreveal, hrevealBytes⟩, ⟨_, hsolution, hsolutionBytes⟩⟩
    exact ⟨_, _, _, hcoin, hread, hreveal, hrevealBytes, hsolution, hsolutionBytes⟩

theorem ReadAs.mono {rule rule' : ℚ → Nat → Prop} {v : Value} {s : Spend} (h : ReadAs rule v s)
    (hrule : ∀ coin w r amount, v.field "coin" = .ok coin → coin.field "amount" = .ok w →
      w.Denotes r → rule r amount → rule' r amount) : ReadAs rule' v s where
  coin := by
    obtain ⟨coin, hcoin, hread⟩ := h.coin
    exact ⟨coin, hcoin, hread.mono fun w r => hrule coin w r _ hcoin⟩
  puzzleReveal := h.puzzleReveal
  solution := h.solution

end Spend

namespace Bundle

/-- **A bundle that reads by one rule reads by any that allows the amounts of its document**, as far
as these are named by the spends that it lists. -/
theorem ReadAs.mono {rule rule' : ℚ → Nat → Prop} {d : Value} {b : Bundle} (h : ReadAs rule d b)
    (hrule : ∀ r amount, Names d r → rule r amount → rule' r amount) : ReadAs rule' d b where
  signature := h.signature
  spends := by
    obtain ⟨items, hitems, hspends⟩ := h.spends
    refine ⟨items, hitems, ((List.forall₂_and_left ..).2 ⟨fun v hv => hv, hspends⟩).imp ?_⟩
    rintro v s ⟨hv, hs⟩
    exact hs.mono fun coin w r amount hcoin hw hr =>
      hrule r amount ⟨items, hitems, v, hv, coin, w, hcoin, hw, hr⟩

theorem lists_map_iff {entries : List (Value × Value)} {items : List Value} :
    Lists (.map entries) items ↔
      ((Value.find? "coin_spends" entries).getD (.list [])).iterate = .ok items := by
  constructor
  · rintro ⟨_, heq, h⟩
    rwa [Value.map.inj heq]
  · exact fun h => ⟨entries, rfl, h⟩

theorem signature_eq_ok_iff {v : Value} {b : Bytes} :
    (if v.truthy then v.toBytes else .ok []) = .ok b ↔ v.Signs b := by
  rw [Value.Signs]
  split
  · exact Value.toBytes_eq_ok_iff
  · exact ⟨fun h => (Except.ok.inj h).symm, fun h => h ▸ rfl⟩

/-- **A bundle is read exactly if its signature is and all that it lists are spends.** -/
theorem ofDocument_eq_ok_iff_readAs {d : Value} {b : Bundle} :
    ofDocument d = .ok b ↔ ReadAs Coin.CutsOff d b := by
  constructor
  · intro h
    cases d with
    | map entries =>
      obtain ⟨_, items, rfl, hsignature, hitems, hspends⟩ := ofDocument_eq_ok_iff.1 h
      exact ⟨⟨entries, rfl, signature_eq_ok_iff.1 hsignature⟩, items, lists_map_iff.2 hitems,
        hspends.imp fun _ _ => Spend.ofDocument_eq_ok_iff_readAs.1⟩
    | _ => exact absurd h Outcome.error_ne_ok
  · rintro ⟨⟨entries, rfl, hsignature⟩, items, hitems, hspends⟩
    exact ofDocument_eq_ok_iff.2 ⟨_, items, rfl, signature_eq_ok_iff.2 hsignature,
      lists_map_iff.1 hitems, hspends.imp fun _ _ => Spend.ofDocument_eq_ok_iff_readAs.2⟩

/-- Under a rule, every number in the document goes to an amount. -/
theorem ReadAs.exists_amount {rule : ℚ → Nat → Prop} {d : Value} {b : Bundle}
    (h : ReadAs rule d b) {r : ℚ} (hr : Names d r) : ∃ s ∈ b.spends, rule r s.coin.amount := by
  obtain ⟨items, ⟨entries, rfl, hitems⟩, v, hv, coin, w, hcoin, hw, hwr⟩ := hr
  obtain ⟨items', ⟨_, heq, hitems'⟩, hspends⟩ := h.spends
  obtain rfl := Value.map.inj heq
  obtain rfl := Except.ok.inj (hitems.symm.trans hitems')
  obtain ⟨s, hs, hread⟩ := Outcome.exists_of_mem_forall₂ hspends.flip hv
  obtain ⟨coin', hcoin', hcoinRead⟩ := hread.coin
  obtain rfl := Except.ok.inj (hcoin.symm.trans hcoin')
  obtain ⟨w', r', hw', hr', hrule⟩ := hcoinRead.amount
  obtain rfl := Except.ok.inj (hw.symm.trans hw')
  exact ⟨s, hs, hwr.unique hr' ▸ hrule⟩

/-- **What is read from the document of a bundle.**  Reading succeeds exactly if the document lists
spends whose fields spell byte strings and whose amounts are numbers above −1; the bundle has one
spend for each, in order, with these byte strings and the whole parts of these numbers.  Every
amount is kept exactly if all of them are whole. -/
theorem ofDocument_readAs (d : Value) (b : Bundle) :
    (ofDocument d = .ok b ↔ ReadAs Coin.CutsOff d b) ∧
      (ReadAs Coin.Keeps d b ↔ ofDocument d = .ok b ∧ ∀ r, Names d r → ∃ n : ℤ, r = n) := by
  refine ⟨ofDocument_eq_ok_iff_readAs, ?_⟩
  rw [ofDocument_eq_ok_iff_readAs]
  constructor
  · intro h
    refine ⟨h.mono fun r amount _ => Coin.Keeps.cutsOff, fun r hr => ?_⟩
    obtain ⟨s, -, hkept⟩ := h.exists_amount hr
    exact ⟨s.coin.amount, hkept⟩
  · rintro ⟨h, hwhole⟩
    refine h.mono fun r amount hr hcut => ?_
    obtain ⟨n, rfl⟩ := hwhole r hr
    exact hcut.keeps

/-- The document of an unsigned bundle of one spend, with a value as the amount of its coin. -/
def single (amount : Value) : Value :=
  .object [("coin_spends", .list [.object [
    ("coin", .object [("parent_coin_info", Bytes.toValue (List.replicate 32 1)),
      ("puzzle_hash", Bytes.toValue (List.replicate 32 2)), ("amount", amount)]),
    ("puzzle_reveal", Bytes.toValue []), ("solution", Bytes.toValue [])]])]

/-- A document with one amount reads as the bundle of one coin that has it, cut off. -/
theorem ofDocument_single {v : Value} {r : ℚ} {amount : Nat} (hr : v.Denotes r)
    (hamount : Coin.CutsOff r amount) :
    ofDocument (single v) = .ok ⟨[], [⟨Coin.repeated amount, [], []⟩]⟩ := by
  have hspells (b : Bytes) : b.toValue.Spells b := Value.toBytes_eq_ok_iff.1 b.toBytes_toValue
  refine ofDocument_eq_ok_iff_readAs.2 ⟨⟨_, rfl, rfl⟩, _, ⟨_, rfl, rfl⟩, .cons ?_ .nil⟩
  refine ⟨⟨_, Value.field_object rfl, ?_⟩, ⟨_, Value.field_object rfl, hspells []⟩,
    ⟨_, Value.field_object rfl, hspells []⟩⟩
  exact ⟨⟨_, Value.field_object rfl, hspells _⟩, ⟨_, Value.field_object rfl, hspells _⟩,
    ⟨_, r, Value.field_object rfl, hr, hamount⟩⟩

/-- **A fraction is not kept**: an amount of −½ is read as zero. -/
theorem ofDocument_half :
    ofDocument (single (.float (.ofDecimal true 5 (-1)))) =
        .ok ⟨[], [⟨Coin.repeated 0, [], []⟩]⟩ ∧
      ¬ ReadAs Coin.Keeps (single (.float (.ofDecimal true 5 (-1))))
        ⟨[], [⟨Coin.repeated 0, [], []⟩]⟩ := by
  have hfloat : Binary64.ofDecimal true 5 (-1) = .finite true (2 ^ 52) (-53) := by decide +kernel
  have hhalf : (Value.float (.ofDecimal true 5 (-1))).Denotes (-1 / 2) := by
    refine .float ?_
    rw [hfloat, Binary64.toRat?, if_pos rfl]
    norm_num
  refine ⟨ofDocument_single hhalf ⟨by norm_num, (Nat.floor_of_nonpos (by norm_num)).symm⟩,
    fun h => ?_⟩
  obtain ⟨s, -, hkept⟩ := h.exists_amount ⟨_, ⟨_, rfl, rfl⟩, _, List.mem_singleton_self _, _, _,
    Value.field_object rfl, Value.field_object rfl, hhalf⟩
  have hnonneg : (0 : ℚ) ≤ s.coin.amount := Nat.cast_nonneg _
  rw [← show (-1 / 2 : ℚ) = s.coin.amount from hkept] at hnonneg
  norm_num at hnonneg

end Bundle

end CoinPuzzles
