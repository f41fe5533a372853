import CoinPuzzles.Proofs.Runner.Session
import CoinPuzzles.Proofs.Signing.Conditions
import CoinPuzzles.Proofs.Signing.Grouping

/-!
# Proofs/Signing/Exactness — one signature for each condition that asks for one

Signing runs the spends one after another; of each it first collects the demands of all conditions
and then meets them.  `Signs` and `Refuses` say for one condition on its own which signature it is
given and why it is given none.  `signSpends_exact` says that nothing else happens: the aggregate is
over the conditions that ask for a signature, each as often as it stands there and in that order,
and signing is refused exactly if one of them is.
-/

namespace CoinPuzzles

variable {S : Scheme} {keys : List S.Key} {genesis publicKey : Bytes} {runner : Runner}
variable {earlier : List Call} {s : Spend} {spends : List Spend} {c conditions : Program}
variable {results : List Program}

/-! ## Keys -/

/-- The key is the last one with that public key. -/
def Scheme.IsKeyOf (S : Scheme) (keys : List S.Key) (publicKey : Bytes) (key : S.Key) : Prop :=
  S.publicKey key = publicKey ∧
    ∃ before after, keys = before ++ key :: after ∧ ∀ k ∈ after, S.publicKey k ≠ publicKey

theorem Scheme.keyFor?_keyring (S : Scheme) (keys : List S.Key) (publicKey : Bytes) :
    S.keyFor? (S.keyring keys) publicKey =
      keys.reverse.find? fun k => S.publicKey k == publicKey := by
  rw [keyFor?, keyring, ← List.map_reverse, List.find?_map, Option.map_map]
  exact Option.map_id'

/-- **Of the keys with one public key the last one signs.** -/
theorem Scheme.keyFor?_keyring_eq_some_iff {key : S.Key} :
    S.keyFor? (S.keyring keys) publicKey = some key ↔ S.IsKeyOf keys publicKey key := by
  rw [keyFor?_keyring, List.find?_eq_some_iff_append, beq_iff_eq, IsKeyOf]
  refine and_congr_right fun _ => ?_
  constructor
  · rintro ⟨after, before, hkeys, hafter⟩
    refine ⟨before.reverse, after.reverse, ?_, fun k hk => ?_⟩
    · rw [← List.reverse_reverse keys, hkeys]
      simp
    · simpa using hafter k (List.mem_reverse.1 hk)
  · rintro ⟨before, after, rfl, hafter⟩
    refine ⟨after.reverse, before.reverse, by simp, fun k hk => ?_⟩
    simpa using hafter k (List.mem_reverse.1 hk)

theorem Scheme.keyFor?_keyring_eq_none_iff :
    S.keyFor? (S.keyring keys) publicKey = none ↔ ∀ k ∈ keys, S.publicKey k ≠ publicKey := by
  rw [keyFor?_keyring, List.find?_eq_none]
  simp

/-! ## One condition -/

/-- The signature is the one that a condition of the spend asks for. -/
inductive Scheme.Signs (S : Scheme) (keys : List S.Key) (genesis : Bytes) (s : Spend)
    (c : Program) : S.Signature → Prop
  | plain {publicKey message : Bytes} {key : S.Key} (hc : Asks c signMessage publicKey message)
      (hkey : S.IsKeyOf keys publicKey key) : Signs S keys genesis s c (S.sign key message)
  | bound {publicKey message : Bytes} {key : S.Key} (hc : Asks c signCoinMessage publicKey message)
      (hkey : S.IsKeyOf keys publicKey key) :
      Signs S keys genesis s c (S.sign key (message ++ s.coin.id ++ genesis))

/-- A condition of the spend that asks for a signature is given none, for this reason. -/
inductive Scheme.Refuses (S : Scheme) (keys : List S.Key) (s : Spend) (c : Program) :
    SigningError → Prop
  | malformed (hc : Malformed c) : Refuses S keys s c (.malformedCondition c)
  | keyless {publicKey message : Bytes}
      (hc : Asks c signMessage publicKey message ∨ Asks c signCoinMessage publicKey message)
      (hkeys : ∀ k ∈ keys, S.publicKey k ≠ publicKey) :
      Refuses S keys s c (.missingKey publicKey s.coin.id)

theorem Scheme.meet_eq_ok_iff {coin : Coin} {d : Demand} {t : S.Signature} :
    S.meet (S.keyring keys) coin d = .ok t ↔
      ∃ key, S.IsKeyOf keys d.publicKey key ∧ t = S.sign key d.message := by
  simp only [← keyFor?_keyring_eq_some_iff, meet]
  cases S.keyFor? (S.keyring keys) d.publicKey <;> simp [eq_comm]

/-- A demand is refused for want of a key, naming the public key and the coin. -/
theorem Scheme.meet_eq_error_iff {coin : Coin} {d : Demand} {e : SigningError} :
    S.meet (S.keyring keys) coin d = .error e ↔
      (∀ k ∈ keys, S.publicKey k ≠ d.publicKey) ∧ e = .missingKey d.publicKey coin.id := by
  rw [← keyFor?_keyring_eq_none_iff, meet]
  cases S.keyFor? (S.keyring keys) d.publicKey <;> simp [eq_comm]

/-- The signature for a condition of a spend, made. -/
def Scheme.signatureFor (S : Scheme) (keys : List S.Key) (genesis : Bytes) (a : Spend × Program) :
    Except SigningError S.Signature :=
  demand a.1.coin genesis a.2 >>= S.meet (S.keyring keys) a.1.coin

/-- **A condition that asks for a signature gets the one it asks for.** -/
theorem Scheme.signatureFor_eq_ok_iff (hc : asksSignature c) {t : S.Signature} :
    S.signatureFor keys genesis (s, c) = .ok t ↔ S.Signs keys genesis s c t := by
  simp only [signatureFor, Outcome.bind_eq_ok_iff, demand_eq_ok_iff hc, meet_eq_ok_iff]
  constructor
  · rintro ⟨_, ⟨pk, message, hasks, rfl⟩ | ⟨pk, message, hasks, rfl⟩, key, hkey, rfl⟩
    · exact .plain hasks hkey
    · exact .bound hasks hkey
  · rintro (⟨hasks, hkey⟩ | ⟨hasks, hkey⟩)
    · exact ⟨_, .inl ⟨_, _, hasks, rfl⟩, _, hkey, rfl⟩
    · exact ⟨_, .inr ⟨_, _, hasks, rfl⟩, _, hkey, rfl⟩

/-- **It gets none if it is malformed or nobody has its key**, and for no other reason. -/
theorem Scheme.signatureFor_eq_error_iff (hc : asksSignature c) {e : SigningError} :
    S.signatureFor keys genesis (s, c) = .error e ↔ S.Refuses keys s c e := by
  simp only [signatureFor, Outcome.bind_eq_error_iff, demand_eq_error_iff hc, demand_eq_ok_iff hc,
    meet_eq_error_iff]
  constructor
  · rintro (⟨hbad, rfl⟩ |
      ⟨_, ⟨pk, message, hasks, rfl⟩ | ⟨pk, message, hasks, rfl⟩, hkeys, rfl⟩)
    · exact .malformed hbad
    · exact .keyless (.inl hasks) hkeys
    · exact .keyless (.inr hasks) hkeys
  · rintro (hbad | ⟨hasks | hasks, hkeys⟩)
    · exact .inl ⟨hbad, rfl⟩
    · exact .inr ⟨_, .inl ⟨_, _, hasks, rfl⟩, hkeys, rfl⟩
    · exact .inr ⟨_, .inr ⟨_, _, hasks, rfl⟩, hkeys, rfl⟩

/-! ## The spends -/

/-- The runner answers the calls of the spends, one after another, with these conditions. -/
inductive Runner.Answers (runner : Runner) : List Call → List Spend → List Program → Prop
  | nil {earlier : List Call} : Answers runner earlier [] []
  | cons {earlier : List Call} {s : Spend} {spends : List Spend} {conditions : Program}
      {results : List Program} (hs : runner.Reports earlier s conditions)
      (hrest : Answers runner (earlier ++ [s.call]) spends results) :
      Answers runner earlier (s :: spends) (conditions :: results)

/-- The conditions that ask for a signature, each beside its spend. -/
def asking (spends : List Spend) (results : List Program) : List (Spend × Program) :=
  (spends.zip results).flatMap fun a => (a.2.elements.filter asksSignature).map (Prod.mk a.1)

theorem asksSignature_of_mem_asking {a : Spend × Program} (h : a ∈ asking spends results) :
    asksSignature a.2 := by
  obtain ⟨⟨s, conditions⟩, -, ha⟩ := List.mem_flatMap.1 h
  obtain ⟨c, hc, rfl⟩ := List.mem_map.1 ha
  exact (List.mem_filter.1 hc).2

/-- The signatures for the conditions of a spend, made. -/
def Scheme.signaturesFor (S : Scheme) (keys : List S.Key) (genesis : Bytes)
    (a : Spend × Program) : Except SigningError (List S.Signature) :=
  demandsOf a.1.coin genesis a.2 >>= fun ds => ds.mapM (S.meet (S.keyring keys) a.1.coin)

/-- **The signatures for a spend are those of its conditions**, which are gone over twice: first to
take their demands, then to meet them. -/
theorem Scheme.collects_signaturesFor (a : Spend × Program) :
    Outcome.Collects (S.signaturesFor keys genesis a) (S.signatureFor keys genesis)
      ((a.2.elements.filter asksSignature).map (Prod.mk a.1)) := by
  rw [signaturesFor, demandsOf_eq]
  have hmade := (Outcome.collects_mapM (demand a.1.coin genesis)
    (a.2.elements.filter asksSignature)).bind (S.meet (S.keyring keys) a.1.coin)
  exact hmade.map

/-- **A spend is run once**, and its signatures are those for the conditions that were reported. -/
theorem runFrom_signSpend (h : runner.Reports earlier s conditions) :
    (signSpend S (S.keyring keys) genesis runner s).runFrom earlier =
      (S.signaturesFor keys genesis (s, conditions), earlier ++ [s.call]) := by
  rw [signSpend, Session.runFrom_bind, runFrom_demands h, Scheme.signaturesFor]
  cases demandsOf s.coin genesis conditions with
  | error e => rfl
  | ok ds => exact Session.runFrom_ofExcept _ _

/-- **Signing spends one after another makes the signatures of each**, whatever the runner's answers
depend on. -/
theorem runFrom_mapM_signSpend (h : runner.Answers earlier spends results) :
    ((spends.mapM (signSpend S (S.keyring keys) genesis runner)).runFrom earlier).1 =
      (spends.zip results).mapM (S.signaturesFor keys genesis) := by
  -- The answers go on from the calls that were made so far, as the session does.
  induction h with
  | nil => rfl
  | @cons earlier s spends conditions results hs _ ih =>
    rw [List.mapM_cons, List.zip_cons_cons, List.mapM_cons, ← ih, Session.runFrom_bind,
      runFrom_signSpend hs]
    cases S.signaturesFor keys genesis (s, conditions) with
    | error e => rfl
    | ok signatures => exact Session.fst_runFrom_bind_pure _ _ _

/-- **Spends are run in their order**, and what was signed for them is sealed together; by induction
on the spends, each of which sees the calls of those before it. -/
theorem runFrom_signSpends (h : runner.Answers earlier spends results) :
    ((signSpends S .ready keys genesis runner spends).runFrom earlier).1 =
      (((spends.zip results).mapM (S.signaturesFor keys genesis)).map List.flatten).map
        fun signatures => S.seal (S.aggregate signatures) spends := by
  rw [← runFrom_mapM_signSpend h]
  have hseal := Session.fst_runFrom_bind_pure
    (spends.mapM (signSpend S (S.keyring keys) genesis runner))
    (fun made => S.seal (S.aggregate made.flatten) spends) earlier
  refine hseal.trans ?_
  generalize (Session.runFrom _ earlier).1 = made
  cases made <;> rfl

/-- **The signatures are those of one pass over all conditions that ask for one.**  A refusal may be
another: the demands of a spend are collected before the first of them is met. -/
theorem collects_asking (spends : List Spend) (results : List Program) :
    Outcome.Collects
      (((spends.zip results).mapM (S.signaturesFor keys genesis)).map List.flatten)
      (S.signatureFor keys genesis) (asking spends results) :=
  .flatten fun a _ => Scheme.collects_signaturesFor a

/-- **Signing is exact.**  With a runner that answers every spend with conditions, signing is
refused exactly if one of the conditions that ask for a signature is, and then as such a one; else
the bundle holds the given spends under the aggregate of one signature for each such condition. -/
theorem signSpends_exact (S : Scheme) (keys : List S.Key) (genesis : Bytes)
    (h : runner.Answers earlier spends results) :
    let signed := ((signSpends S .ready keys genesis runner spends).runFrom earlier).1
    ((∃ e, signed = .error e) ↔ ∃ a ∈ asking spends results, ∃ e, S.Refuses keys a.1 a.2 e) ∧
      (∀ e, signed = .error e → ∃ a ∈ asking spends results, S.Refuses keys a.1 a.2 e) ∧
      ∀ b, signed = .ok b ↔ ∃ signatures,
        List.Forall₂ (fun a => S.Signs keys genesis a.1 a.2) (asking spends results) signatures ∧
          b = ⟨S.signatureBytes (S.aggregate signatures), spends⟩ := by
  intro signed
  have hall : Outcome.Collects _ (S.signatureFor keys genesis) (asking spends results) :=
    collects_asking spends results
  have hsigns : ∀ a ∈ asking spends results, ∀ t,
      S.signatureFor keys genesis a = .ok t ↔ S.Signs keys genesis a.1 a.2 t :=
    fun a ha t => Scheme.signatureFor_eq_ok_iff (asksSignature_of_mem_asking ha)
  have hrefuses : ∀ a ∈ asking spends results, ∀ e,
      S.signatureFor keys genesis a = .error e ↔ S.Refuses keys a.1 a.2 e :=
    fun a ha e => Scheme.signatureFor_eq_error_iff (asksSignature_of_mem_asking ha)
  simp only [signed, runFrom_signSpends h]
  generalize ((spends.zip results).mapM (S.signaturesFor keys genesis)).map List.flatten = made
    at hall
  simp only [Outcome.map_eq_error_iff, Outcome.map_eq_ok_iff, hall.eq_ok_iff,
    Outcome.mapM_eq_ok_iff_forall₂ hsigns]
  refine ⟨?_, fun e he => ?_, fun b => Iff.rfl⟩
  · rw [hall.exists_error_iff]
    exact exists_congr fun a => and_congr_right fun ha => exists_congr (hrefuses a ha)
  · obtain ⟨a, ha, hfail⟩ := hall.exists_of_error he
    exact ⟨a, ha, (hrefuses a ha e).1 hfail⟩

/-- Two sample spends with the same conditions, with the key and without it. -/
theorem signSpends_exact_sampleConditions :
    let runner := Runner.uniform (.ofList sampleConditions)
    let spends := [sampleSpend 1, sampleSpend 2]
    let genesis : Bytes := List.replicate 32 0xAA
    runner.Answers [] spends [.ofList sampleConditions, .ofList sampleConditions] ∧
      (signSpends bls .ready [(0 : Nat)] genesis runner spends).outcome.1 =
        .ok ⟨bls.signatureBytes (bls.aggregate
          [bls.sign (0 : Nat) [0x07],
            bls.sign (0 : Nat) ([0x07] ++ (sampleSpend 1).coin.id ++ genesis),
            bls.sign (0 : Nat) [0x07],
            bls.sign (0 : Nat) ([0x07] ++ (sampleSpend 2).coin.id ++ genesis)]), spends⟩ ∧
      ∃ e, (signSpends bls .ready [] genesis runner spends).outcome.1 = .error e := by
  intro runner spends genesis
  have hanswers : runner.Answers [] spends [.ofList sampleConditions, .ofList sampleConditions] :=
    .cons (reports_sampleConditions _ _) (.cons (reports_sampleConditions _ _) .nil)
  have hkey : bls.IsKeyOf [(0 : Nat)] (Curve.infinityBytes 48) (0 : Nat) :=
    ⟨by decide +kernel, [], [], rfl, by simp⟩
  refine ⟨hanswers, ((signSpends_exact bls [(0 : Nat)] genesis hanswers).2.2 _).2 ⟨_, ?_, rfl⟩,
    (signSpends_exact bls [] genesis hanswers).1.2 ⟨(sampleSpend 1, sampleConditions[1]), ?_, _,
      .keyless (.inl ⟨[0x31], [], rfl, rfl⟩) (by simp)⟩⟩
  · have hplain : ∀ s : Spend, bls.Signs [(0 : Nat)] genesis s sampleConditions[1]
        (bls.sign (0 : Nat) [0x07]) := fun s => .plain ⟨[0x31], [], rfl, rfl⟩ hkey
    have hbound : ∀ s : Spend, bls.Signs [(0 : Nat)] genesis s sampleConditions[2]
        (bls.sign (0 : Nat) ([0x07] ++ s.coin.id ++ genesis)) :=
      fun s => .bound ⟨[0x32], [.nil], rfl, rfl⟩ hkey
    exact .cons (hplain _) (.cons (hbound _) (.cons (hplain _) (.cons (hbound _) .nil)))
  · decide +kernel

end CoinPuzzles
