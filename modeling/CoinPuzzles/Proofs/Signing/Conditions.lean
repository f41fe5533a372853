import CoinPuzzles.Proofs.Outcome
import CoinPuzzles.Proofs.Program.Encoding
import CoinPuzzles.Signing.Spends

/-!
# Proofs/Signing/Conditions — what the conditions of a spend ask for

A condition counts if its first entry is an atom of one of two numbers (`asksSignature`).  It then
is malformed, or it asks for one signature: `demand_eq_error_iff` and `demand_eq_ok_iff` are the two
halves.  What a spend demands is the demand of each condition that counts, in order
(`demandsOf_eq`); the others leave no trace.
-/

namespace CoinPuzzles

variable {coin : Coin} {genesis key message : Bytes} {c : Program} {number : Int}

/-! ## One condition -/

/-- Whether the first entry of the condition is the number of one that asks for a signature. -/
def asksSignature (c : Program) : Bool :=
  match c.elements with
  | .atom op :: _ => Bytes.toInt op = signMessage ∨ Bytes.toInt op = signCoinMessage
  | _ => false

/-- The condition has that number and names a public key and a message. -/
def Asks (c : Program) (number : Int) (publicKey message : Bytes) : Prop :=
  ∃ op rest, c.elements = .atom op :: .atom publicKey :: .atom message :: rest ∧
    Bytes.toInt op = number

/-- The condition has fewer than two arguments, or a pair among the first two. -/
def Malformed (c : Program) : Prop :=
  c.elements.length < 3 ∨ ∃ p ∈ c.elements.tail.take 2, p.isPair

/-- A condition with a key and a message is not malformed. -/
theorem Asks.not_malformed (h : Asks c number key message) : ¬ Malformed c := by
  obtain ⟨op, rest, hc, -⟩ := h
  rw [Malformed, hc]
  rintro (hshort | ⟨p, hp, hpair⟩)
  · simp only [List.length_cons] at hshort
    omega
  · rw [List.tail_cons, List.take_succ_cons, List.take_succ_cons, List.take_zero] at hp
    obtain rfl | rfl := List.mem_pair.1 hp <;> cases hpair

/-- **A condition that counts is malformed or names a key and a message.** -/
theorem asks_of_not_malformed (hc : asksSignature c) (h : ¬ Malformed c) :
    ∃ key message, Asks c signMessage key message ∨ Asks c signCoinMessage key message := by
  rw [asksSignature] at hc
  rw [Malformed, not_or] at h
  obtain ⟨hlong, hatoms⟩ := h
  split at hc
  · next op args hop =>
    rw [hop] at hlong hatoms
    match args with
    | [] | [_] => simp at hlong
    | .pair a b :: second :: rest => exact absurd ⟨_, List.mem_cons_self, rfl⟩ hatoms
    | .atom key :: .pair a b :: rest =>
      exact absurd ⟨_, List.mem_cons_of_mem _ List.mem_cons_self, rfl⟩ hatoms
    | .atom key :: .atom message :: rest =>
      refine ⟨key, message, (of_decide_eq_true hc).imp ?_ ?_⟩
      · exact fun hnumber => ⟨op, rest, hop, hnumber⟩
      · exact fun hnumber => ⟨op, rest, hop, hnumber⟩
  · cases hc

/-! ## The demand of a condition -/

/-- What a condition that counts asks for. -/
def demand (coin : Coin) (genesis : Bytes) (c : Program) : Except SigningError Demand :=
  match c.elements with
  | .atom op :: .atom key :: .atom message :: _ =>
    .ok ⟨key, if Bytes.toInt op = signMessage then message else message ++ coin.id ++ genesis⟩
  | _ => .error (.malformedCondition c)

/-- **A plain demand is for the message alone.** -/
theorem demand_of_asks (h : Asks c signMessage key message) :
    demand coin genesis c = .ok ⟨key, message⟩ := by
  obtain ⟨op, rest, hc, hop⟩ := h
  simp only [demand, hc, if_pos hop]

/-- **A bound demand is for the message, the coin and the challenge**, in this order. -/
theorem demand_of_asks_coin (h : Asks c signCoinMessage key message) :
    demand coin genesis c = .ok ⟨key, message ++ coin.id ++ genesis⟩ := by
  obtain ⟨op, rest, hc, hop⟩ := h
  have hother : Bytes.toInt op ≠ signMessage := hop.trans_ne (by decide)
  simp only [demand, hc, if_neg hother]

theorem demand_of_malformed (h : Malformed c) :
    demand coin genesis c = .error (.malformedCondition c) := by
  rw [demand]
  split
  · next op key message rest hc => exact absurd h (Asks.not_malformed ⟨op, rest, hc, rfl⟩)
  · rfl

theorem demand_eq_error_iff (hc : asksSignature c) {e : SigningError} :
    demand coin genesis c = .error e ↔ Malformed c ∧ e = .malformedCondition c := by
  by_cases h : Malformed c
  · rw [demand_of_malformed h, Except.error.injEq, eq_comm]
    exact (and_iff_right h).symm
  · simp only [h, false_and, iff_false]
    obtain ⟨key, message, hasks | hasks⟩ := asks_of_not_malformed hc h
    · rw [demand_of_asks hasks]
      exact Outcome.ok_ne_error
    · rw [demand_of_asks_coin hasks]
      exact Outcome.ok_ne_error

/-- **A demand is plain or bound, as the opcode of its condition says.** -/
theorem demand_eq_ok_iff (hc : asksSignature c) {d : Demand} :
    demand coin genesis c = .ok d ↔
      (∃ key message, Asks c signMessage key message ∧ d = ⟨key, message⟩) ∨
        ∃ key message, Asks c signCoinMessage key message ∧
          d = ⟨key, message ++ coin.id ++ genesis⟩ := by
  constructor
  · intro h
    have hwell : ¬ Malformed c := fun hbad =>
      Outcome.error_ne_ok ((demand_of_malformed hbad).symm.trans h)
    obtain ⟨key, message, hasks | hasks⟩ := asks_of_not_malformed hc hwell
    · exact .inl ⟨key, message, hasks, Except.ok.inj (h.symm.trans (demand_of_asks hasks))⟩
    · exact .inr ⟨key, message, hasks, Except.ok.inj (h.symm.trans (demand_of_asks_coin hasks))⟩
  · rintro (⟨key, message, hasks, rfl⟩ | ⟨key, message, hasks, rfl⟩)
    · exact demand_of_asks hasks
    · exact demand_of_asks_coin hasks

/-! ## The demands of a spend -/

theorem demandOf_eq (coin : Coin) (genesis : Bytes) (c : Program) :
    demandOf coin genesis c =
      if asksSignature c then (demand coin genesis c).map some else .ok none := by
  unfold demandOf asksSignature demand
  match c.elements with
  | [] | .pair _ _ :: _ => rfl
  | .atom op :: args =>
    by_cases hop : Bytes.toInt op = signMessage ∨ Bytes.toInt op = signCoinMessage
    · simp only [hop, if_true, decide_true]
      match args with
      | [] | [.atom _] | [.pair _ _] | .pair _ _ :: _ :: _ | .atom _ :: .pair _ _ :: _ => rfl
      | .atom _ :: .atom _ :: _ => rfl
    · simp only [hop, if_false, decide_false, Bool.false_eq_true]

/-- **A spend demands what its conditions that count ask for**, in order. -/
theorem demandsOf_eq (coin : Coin) (genesis : Bytes) (conditions : Program) :
    demandsOf coin genesis conditions =
      (conditions.elements.filter asksSignature).mapM (demand coin genesis) :=
  Outcome.mapM_filterMap_id (demandOf_eq coin genesis) conditions.elements

/-- The runner answers the call of a spend with these conditions. -/
def Runner.Reports (runner : Runner) (earlier : List Call) (s : Spend) (conditions : Program) :
    Prop :=
  ∃ text, runner.answer earlier s.call = .ok text ∧ Program.ofHex text = .ok conditions

/-- **The demands of a spend are those of the conditions that its run reports**, in one call. -/
theorem runFrom_demands {runner : Runner} {earlier : List Call} {s : Spend} {conditions : Program}
    (h : runner.Reports earlier s conditions) :
    (demands runner genesis s).runFrom earlier =
      (demandsOf s.coin genesis conditions, earlier ++ [s.call]) := by
  obtain ⟨text, htext, hread⟩ := h
  rw [demands, Session.runFrom_bind, Session.runFrom_mapError, Runner.runFrom_ask, htext]
  change ((Session.ofExcept _ >>= fun _ => _ : Session SigningError _)).runFrom _ = _
  rw [Session.runFrom_bind, Session.runFrom_ofExcept, hread]
  exact Session.runFrom_ofExcept _ _

/-- A runner that answers every call with these conditions. -/
def Runner.uniform (conditions : Program) : Runner := .pure fun _ => .ok conditions.toHex

/-- A condition of either kind for the key zero, behind one that asks for no signature. -/
def sampleConditions : List Program :=
  [.ofList [.atom [0x33], .atom [0x01]],
    .ofList [.atom [0x31], .atom (Curve.infinityBytes 48), .atom [0x07]],
    .ofList [.atom [0x32], .atom (Curve.infinityBytes 48), .atom [0x07], .nil]]

theorem reports_sampleConditions (earlier : List Call) (s : Spend) :
    (Runner.uniform (.ofList sampleConditions)).Reports earlier s (.ofList sampleConditions) :=
  ⟨_, rfl, Program.ofHex_toHex (by decide +kernel)⟩

end CoinPuzzles
