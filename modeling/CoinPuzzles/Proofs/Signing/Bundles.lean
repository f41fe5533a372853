import CoinPuzzles.Proofs.Runner.Session
import CoinPuzzles.Signing.Aggregate
import CoinPuzzles.Signing.Spends

/-!
# Proofs/Signing/Bundles — which spends a bundle holds

Signing keeps the spends it was given (`signSpends_eq_ok`).  Merging keeps the spends of the signed
bundles, in order, and no others (`combine_eq_ok_iff`): a bundle without signature leaves no trace.
A signature of the ledger's scheme is never empty, so what was signed here is always kept.
-/

namespace CoinPuzzles

variable {S : Scheme} {context : SigningContext}

theorem SigningContext.require_eq_ok_iff {u : Unit} :
    context.require = .ok u ↔ context = .ready := by
  cases context with
  | missing => simp [require]
  | ready => simp [require]

/-- **Whatever is signed keeps the spends**, all of them and in their order. -/
theorem signSpends_eq_ok {keys : List S.Key} {genesis : Bytes} {runner : Runner}
    {spends : List Spend} {earlier calls : List Call} {bundle : Bundle}
    (h : (signSpends S context keys genesis runner spends).runFrom earlier = (.ok bundle, calls)) :
    ∃ signatures, bundle = ⟨S.signatureBytes (S.aggregate signatures), spends⟩ := by
  obtain ⟨_, _, -, h⟩ := Session.runFrom_bind_eq_ok_iff.1 h
  obtain ⟨signatures, _, -, h⟩ := Session.runFrom_bind_eq_ok_iff.1 h
  obtain ⟨rfl, -⟩ := Session.runFrom_pure_eq_ok_iff.1 h
  exact ⟨_, rfl⟩

/-- **Merging needs a signature for every bundle it keeps.** -/
theorem combine_eq_ok_iff {bundles : List (Option Bundle)} {b : Bundle} :
    combine S context bundles = .ok b ↔
      context = .ready ∧
        ∃ signatures, (signedBundles bundles).mapM (fun b => S.signatureOf b.signature) =
            .ok signatures ∧
          b = ⟨S.signatureBytes (S.aggregate signatures),
            (signedBundles bundles).flatMap (·.spends)⟩ := by
  simp only [combine, Outcome.bind_eq_ok_iff, Outcome.pure_eq_ok_iff,
    SigningContext.require_eq_ok_iff]
  constructor
  · rintro ⟨_, hready, signatures, hsignatures, rfl⟩
    exact ⟨hready, signatures, hsignatures, rfl⟩
  · rintro ⟨hready, signatures, hsignatures, rfl⟩
    exact ⟨⟨⟩, hready, signatures, hsignatures, rfl⟩

/-- The spends that a bundle brings into a merger. -/
def Bundle.kept (b : Bundle) : List Spend := if b.signature = [] then [] else b.spends

theorem flatMap_signedBundles (bundles : List Bundle) :
    (signedBundles (bundles.map some)).flatMap (·.spends) = bundles.flatMap Bundle.kept := by
  induction bundles with
  | nil => rfl
  | cons b bundles ih =>
    rw [List.flatMap_cons, ← ih, Bundle.kept]
    split
    · next h => simp [signedBundles, h]
    · next h => simp [signedBundles, h]

theorem Bundle.kept_of_ne_nil {b : Bundle} (h : b.signature ≠ []) : b.kept = b.spends := if_neg h

/-! ## The scheme of the ledger -/

/-- The marks go into the first byte and take none of their own. -/
theorem Curve.length_setMarks (large : Bool) : ∀ b : Bytes, (setMarks large b).length = b.length
  | [] => rfl
  | _ :: _ => rfl

/-- **A signature takes 96 bytes**, whatever its point. -/
theorem Curve.length_signatureBytes : ∀ p : Point Fp2, (signatureBytes p).length = 96
  | .infinity => rfl
  | .affine x y => by
    rw [signatureBytes, length_setMarks, Fp2.toBytes, List.length_append, Fp.toBytes, Fp.toBytes,
      Bytes.length_fixed, Bytes.length_fixed]

theorem bls_signatureBytes_ne_nil (s : bls.Signature) : bls.signatureBytes s ≠ [] := by
  intro h
  have hlength := Curve.length_signatureBytes s
  rw [show Curve.signatureBytes s = [] from h] at hlength
  cases hlength

theorem bls_signatureOf_infinity : bls.signatureOf (Curve.infinityBytes 96) = .ok .infinity := by
  have hread : bls.signatureOfBytes? (Curve.infinityBytes 96) = some .infinity := by
    change Curve.signatureOfBytes? (Curve.infinityBytes 96) = some .infinity
    rw [Curve.signatureOfBytes?.eq_def, if_neg (by decide), if_pos rfl]
  rw [Scheme.signatureOf, hread]

/-- Bundles that are signed by infinity, or not at all, add up to infinity. -/
theorem combine_infinity {b : Bundle} {s : Spend}
    (h : b.signature = [] ∨ b.signature = Curve.infinityBytes 96) :
    combine bls .ready ([b, ⟨Curve.infinityBytes 96, [s]⟩].map some) =
      .ok ⟨Curve.infinityBytes 96, b.kept ++ [s]⟩ := by
  have hkept : Bundle.kept ⟨Curve.infinityBytes 96, [s]⟩ = [s] :=
    Bundle.kept_of_ne_nil (List.cons_ne_nil _ _)
  rw [combine_eq_ok_iff, flatMap_signedBundles, List.flatMap_cons, List.flatMap_singleton, hkept]
  refine ⟨rfl, ?_⟩
  obtain ⟨signature, spends⟩ := b
  rcases h with rfl | rfl
  · refine ⟨[.infinity], ?_, rfl⟩
    change [Curve.infinityBytes 96].mapM bls.signatureOf = _
    rw [List.mapM_cons, List.mapM_nil, bls_signatureOf_infinity]
    rfl
  · refine ⟨[.infinity, .infinity], ?_, rfl⟩
    change [Curve.infinityBytes 96, Curve.infinityBytes 96].mapM bls.signatureOf = _
    rw [List.mapM_cons, List.mapM_cons, List.mapM_nil, bls_signatureOf_infinity]
    rfl

/-! ## A runner without demands -/

/-- A runner that answers every call with the empty list of conditions. -/
def Runner.silent : Runner := .pure fun _ => .ok "80"

/-- A spend whose program reports nothing is signed by the empty sum. -/
theorem signSpends_silent {keys : List S.Key} {genesis : Bytes} {s : Spend} {earlier : List Call} :
    (signSpends S .ready keys genesis .silent [s]).runFrom earlier =
      (.ok ⟨S.signatureBytes (S.aggregate []), [s]⟩, earlier ++ [s.call]) :=
  rfl

end CoinPuzzles
