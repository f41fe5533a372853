import CoinPuzzles.Proofs.Signing.Grouping

/-!
# Proofs/Signing/Splitting — spends may be signed in parts

Signing adds up the signatures of all spends at once; merging adds up the signatures of bundles that
were read back from their bytes.  With a runner whose answers depend on the call alone the two agree
(`signedBy_append`), also where one part asks for no signature and is signed by the empty sum.
-/

namespace CoinPuzzles

variable (S : Scheme) (ring : List (Bytes × S.Key)) (keys : List S.Key) (genesis : Bytes)
variable (answer : Call → Except ExecutionError String)

/-! ## The signatures of one spend -/

/-- The signatures that a spend asks for, by the answers of a runner. -/
def answeredDemands (s : Spend) : Except SigningError (List Demand) := do
  let result ← (answer s.call).mapError .execution
  let conditions ← (Program.ofHex result).mapError .program
  demandsOf s.coin genesis conditions

/-- With a runner without memory the demands of a spend depend on nothing but its answer. -/
theorem yields_demands (s : Spend) :
    (demands (.pure answer) genesis s).Yields (answeredDemands genesis answer s) :=
  ((Session.yields_ask answer s.call).mapError SigningError.execution).bind fun result =>
    (Session.yields_ofExcept ((Program.ofHex result).mapError SigningError.program)).bind
      fun conditions => Session.yields_ofExcept (demandsOf s.coin genesis conditions)

/-- The signatures that a spend asks for, made. -/
def Scheme.spendSignatures (s : Spend) : Except SigningError (List S.Signature) := do
  let ds ← answeredDemands genesis answer s
  ds.mapM (S.meet ring s.coin)

theorem yields_signSpend (s : Spend) :
    (signSpend S ring genesis (.pure answer) s).Yields
      (S.spendSignatures ring genesis answer s) :=
  (yields_demands genesis answer s).bind fun ds =>
    Session.yields_ofExcept (ds.mapM (S.meet ring s.coin))

variable {S} in
theorem valid_of_meet (hS : S.Lawful) {coin : Coin} {d : Demand} {t : S.Signature}
    (h : S.meet ring coin d = .ok t) : S.Valid t := by
  rw [Scheme.meet] at h
  split at h
  · obtain rfl := Except.ok.inj h
    exact hS.valid_sign _ _
  · cases h

/-! ## The bundle of a list of spends -/

/-- The signatures that the spends ask for, made. -/
def Scheme.allSignatures (spends : List Spend) : Except SigningError (List S.Signature) :=
  (spends.mapM (S.spendSignatures (S.keyring keys) genesis answer)).map List.flatten

/-- The signed bundle of the given spends, by the answers of a runner. -/
def Scheme.signedBy (spends : List Spend) : Except SigningError Bundle :=
  (signSpends S .ready keys genesis (.pure answer) spends).outcome.1

/-- **Signing seals the aggregate of all signatures over the spends.** -/
theorem signedBy_eq (spends : List Spend) :
    S.signedBy keys genesis answer spends =
      (S.allSignatures keys genesis answer spends).map fun signatures =>
        S.seal (S.aggregate signatures) spends := by
  have hall : (signSpends S .ready keys genesis (.pure answer) spends).Yields (do
      let signatures ← spends.mapM (S.spendSignatures (S.keyring keys) genesis answer)
      return S.seal (S.aggregate signatures.flatten) spends) :=
    (Session.yields_mapM (yields_signSpend S (S.keyring keys) genesis answer) spends).bind
      fun signatures => Session.yields_pure _
  rw [Scheme.signedBy, Session.outcome, hall [], Scheme.allSignatures]
  cases spends.mapM (S.spendSignatures (S.keyring keys) genesis answer) <;> rfl

/-- **The signatures for two lists of spends are those for the one and for the other.** -/
theorem allSignatures_append (xs ys : List Spend) :
    S.allSignatures keys genesis answer (xs ++ ys) = do
      return (← S.allSignatures keys genesis answer xs) ++
        (← S.allSignatures keys genesis answer ys) := by
  rw [Scheme.allSignatures, Scheme.allSignatures, Scheme.allSignatures, List.mapM_append]
  cases xs.mapM (S.spendSignatures (S.keyring keys) genesis answer) with
  | error e => rfl
  | ok l =>
    cases ys.mapM (S.spendSignatures (S.keyring keys) genesis answer) with
    | error e => rfl
    | ok m => exact congrArg Except.ok List.flatten_append

variable {S keys genesis answer}

theorem valid_of_allSignatures (hS : S.Lawful) {spends : List Spend}
    {signatures : List S.Signature}
    (h : S.allSignatures keys genesis answer spends = .ok signatures) :
    ∀ t ∈ signatures, S.Valid t := by
  rw [Scheme.allSignatures] at h
  cases hmade : spends.mapM (S.spendSignatures (S.keyring keys) genesis answer) with
  | error e => rw [hmade] at h; cases h
  | ok l =>
    rw [hmade] at h
    obtain rfl := Except.ok.inj h
    intro t ht
    obtain ⟨made, hmem, ht⟩ := List.mem_flatten.1 ht
    obtain ⟨s, -, hs⟩ := Outcome.exists_of_mem_mapM hmade hmem
    obtain ⟨ds, -, hs⟩ := Outcome.bind_eq_ok_iff.1 hs
    obtain ⟨d, -, hd⟩ := Outcome.exists_of_mem_mapM hs ht
    exact valid_of_meet _ hS hd

/-- **Spends may be signed in parts.**  Signing two lists of spends in one go is signing each and
merging the two bundles: it succeeds exactly if both parts are signed, and it is refused as the
first part that is not. -/
theorem signedBy_append (hS : S.Lawful) (keys : List S.Key) (genesis : Bytes)
    (answer : Call → Except ExecutionError String) (xs ys : List Spend) :
    S.signedBy keys genesis answer (xs ++ ys) = (do
        let a ← S.signedBy keys genesis answer xs
        let b ← S.signedBy keys genesis answer ys
        combine S .ready [some a, some b]) ∧
      ((∃ c, S.signedBy keys genesis answer (xs ++ ys) = .ok c) ↔
        (∃ a, S.signedBy keys genesis answer xs = .ok a) ∧
          ∃ b, S.signedBy keys genesis answer ys = .ok b) := by
  rw [signedBy_eq, signedBy_eq, signedBy_eq, allSignatures_append]
  cases hx : S.allSignatures keys genesis answer xs with
  | error e => exact ⟨rfl, by simp [Except.map, bind, Except.bind]⟩
  | ok l =>
    cases hy : S.allSignatures keys genesis answer ys with
    | error e => exact ⟨rfl, by simp [Except.map, bind, Except.bind]⟩
    | ok m =>
      have hl := valid_of_allSignatures hS hx
      have hm := valid_of_allSignatures hS hy
      refine ⟨?_, ⟨fun _ => ⟨⟨_, rfl⟩, _, rfl⟩, fun _ => ⟨_, rfl⟩⟩⟩
      refine Eq.trans ?_ (combine_seal_pair hS (hS.valid_aggregate hl) (hS.valid_aggregate hm)
        xs ys).symm
      rw [← hS.aggregate_append hl hm]
      rfl

/-- A runner that asks for one signature, by the key zero, for the first sample spend only. -/
def sampleAnswer (call : Call) : Except ExecutionError String :=
  let asking : Program :=
    .ofList [.ofList [.atom [0x31], .atom (Curve.infinityBytes 48), .atom [0x07]]]
  .ok (if call = (sampleSpend 1).call then asking.toHex else Program.nil.toHex)

/-- Two sample spends of which one asks for a signature, and again without the key for it. -/
theorem signedBy_append_sampleSpend :
    Scheme.triad.Lawful ∧
      Scheme.triad.signedBy [()] [] sampleAnswer ([sampleSpend 1] ++ [sampleSpend 2]) =
        .ok ⟨Curve.infinityBytes 96, [sampleSpend 1, sampleSpend 2]⟩ ∧
      Scheme.triad.signedBy [] [] sampleAnswer ([sampleSpend 2] ++ [sampleSpend 1]) =
        .error (.missingKey (Curve.infinityBytes 48) (sampleSpend 1).coin.id) :=
  ⟨Scheme.triad_lawful,
    (signedBy_append Scheme.triad_lawful [()] [] sampleAnswer _ _).1.trans (by decide +kernel),
    (signedBy_append Scheme.triad_lawful [] [] sampleAnswer _ _).1.trans (by decide +kernel)⟩

end CoinPuzzles
