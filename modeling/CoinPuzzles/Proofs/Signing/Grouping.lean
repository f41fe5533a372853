import CoinPuzzles.Proofs.Signing.SchemeLaws

/-!
# Proofs/Signing/Grouping — bundles may be merged group by group

A merged bundle is signed by the sum of its parts' signatures, and the sum of none is a signature
too.  So what is merged can be merged on, whether its group was empty, unsigned or signed.

* `combine_seal` — bundles that are sealed by valid signatures are merged into one of the sum.
* `combine_append` — merging two lists in one go or one by one comes to the same.
* `combine_groups` — so it does for any cut into groups, and for the refusals.
-/

namespace CoinPuzzles

variable {S : Scheme}

/-! ## The signatures of bundles -/

/-- The signatures of the bundles that are there and signed. -/
def Scheme.signaturesOf (S : Scheme) (bundles : List (Option Bundle)) :
    Except SigningError (List S.Signature) :=
  (signedBundles bundles).mapM fun b => S.signatureOf b.signature

/-- The spends under a signature. -/
def Scheme.seal (S : Scheme) (signature : S.Signature) (spends : List Spend) : Bundle :=
  ⟨S.signatureBytes signature, spends⟩

/-- **Merging seals the aggregate of all signatures over all spends**, once there is something to
sign with. -/
theorem combine_ready (bundles : List (Option Bundle)) :
    combine S .ready bundles = (S.signaturesOf bundles).map fun signatures =>
      S.seal (S.aggregate signatures) ((signedBundles bundles).flatMap (·.spends)) := by
  change (S.signaturesOf bundles >>= fun signatures => pure _) = _
  cases S.signaturesOf bundles <;> rfl

theorem combine_ready_eq_error_iff {bundles : List (Option Bundle)} {e : SigningError} :
    combine S .ready bundles = .error e ↔ S.signaturesOf bundles = .error e := by
  rw [combine_ready, Outcome.map_eq_error_iff]

/-- The signed bundles of two lists are those of the one and of the other. -/
theorem signedBundles_append (xs ys : List (Option Bundle)) :
    signedBundles (xs ++ ys) = signedBundles xs ++ signedBundles ys :=
  List.filterMap_append

theorem signaturesOf_append (xs ys : List (Option Bundle)) :
    S.signaturesOf (xs ++ ys) = do return (← S.signaturesOf xs) ++ (← S.signaturesOf ys) := by
  rw [Scheme.signaturesOf, signedBundles_append, List.mapM_append]
  rfl

theorem valid_of_signaturesOf {bundles : List (Option Bundle)} {signatures : List S.Signature}
    (h : S.signaturesOf bundles = .ok signatures) : ∀ s ∈ signatures, S.Valid s := by
  intro s hs
  obtain ⟨b, -, hb⟩ := Outcome.exists_of_mem_mapM h hs
  exact ⟨b.signature, Scheme.signatureOf_eq_ok_iff.1 hb⟩

theorem flatMap_signedBundles_some (bundles : List (Option Bundle)) :
    (signedBundles bundles).flatMap (·.spends) = (bundles.filterMap id).flatMap Bundle.kept := by
  rw [← flatMap_signedBundles, signedBundles, signedBundles, List.filterMap_map,
    List.filterMap_filterMap]
  rfl

theorem mem_signedBundles_iff {bundles : List (Option Bundle)} {b : Bundle} :
    b ∈ signedBundles bundles ↔ some b ∈ bundles ∧ b.signature ≠ [] := by
  simp only [signedBundles, List.mem_filterMap, Option.bind_eq_some_iff, ne_eq,
    ← List.isEmpty_iff]
  constructor
  · rintro ⟨_, hc, c, rfl, h⟩
    split at h
    · cases h
    · next hsigned =>
      obtain rfl := Option.some.inj h
      exact ⟨hc, hsigned⟩
  · rintro ⟨hb, hsigned⟩
    exact ⟨_, hb, b, rfl, if_neg hsigned⟩

/-! ## Merging what is merged -/

section

variable (hS : S.Lawful)
include hS

/-- **Bundles under valid signatures are merged into one under their sum.** -/
theorem combine_seal {parts : List (S.Signature × List Spend)} (h : ∀ p ∈ parts, S.Valid p.1) :
    combine S .ready (parts.map fun p => some (S.seal p.1 p.2)) =
      .ok (S.seal (S.aggregate (parts.map (·.1))) (parts.flatMap (·.2))) := by
  have hsigned : signedBundles (parts.map fun p => some (S.seal p.1 p.2)) =
      parts.map fun p => S.seal p.1 p.2 := by
    rw [signedBundles, List.filterMap_map]
    refine List.filterMap_eq_map_iff_forall_eq_some.2 fun p hp => ?_
    exact if_neg fun hempty => hS.signatureBytes_ne_nil (h p hp) (List.isEmpty_iff.1 hempty)
  have hread : S.signaturesOf (parts.map fun p => some (S.seal p.1 p.2)) =
      .ok (parts.map (·.1)) := by
    rw [Scheme.signaturesOf, hsigned, Outcome.mapM_eq_ok_iff, List.forall₂_map_left_iff,
      List.forall₂_map_right_iff, List.forall₂_same]
    exact fun p hp => hS.signatureOf_signatureBytes (h p hp)
  rw [combine_ready, hread, hsigned, List.flatMap_map]
  rfl

/-- **Two sealed bundles merge into one sealed bundle**, of both signatures and all spends. -/
theorem combine_seal_pair {s t : S.Signature} (hs : S.Valid s) (ht : S.Valid t)
    (xs ys : List Spend) :
    combine S .ready [some (S.seal s xs), some (S.seal t ys)] =
      .ok (S.seal (S.aggregate [s, t]) (xs ++ ys)) := by
  have hparts : ∀ p ∈ [(s, xs), (t, ys)], S.Valid p.1 := by simp [hs, ht]
  have hmerged := combine_seal hS hparts
  rwa [List.flatMap_cons, List.flatMap_singleton] at hmerged

/-- **Merging a merged bundle alone changes nothing.** -/
theorem combine_singleton {bundles : List (Option Bundle)} {b : Bundle}
    (h : combine S .ready bundles = .ok b) : combine S .ready [some b] = .ok b := by
  obtain ⟨-, l, hread, rfl⟩ := combine_eq_ok_iff.1 h
  have hvalid := hS.valid_aggregate (valid_of_signaturesOf hread)
  have hparts : ∀ p ∈ [(S.aggregate l, (signedBundles bundles).flatMap (·.spends))],
      S.Valid p.1 := by
    simp [hvalid]
  refine (combine_seal hS hparts).trans ?_
  rw [List.map_singleton, hS.aggregate_singleton hvalid, List.flatMap_singleton]
  rfl

/-- **Two lists are merged in one go or one by one**, refusals included. -/
theorem combine_append (xs ys : List (Option Bundle)) :
    combine S .ready (xs ++ ys) = (do
      let a ← combine S .ready xs
      let b ← combine S .ready ys
      combine S .ready [some a, some b]) := by
  rw [combine_ready xs, combine_ready ys, combine_ready (xs ++ ys), signaturesOf_append,
    signedBundles_append, List.flatMap_append]
  cases hx : S.signaturesOf xs with
  | error e => rfl
  | ok l =>
    cases hy : S.signaturesOf ys with
    | error e => rfl
    | ok m =>
      have hl := valid_of_signaturesOf hx
      have hm := valid_of_signaturesOf hy
      refine Eq.trans ?_ (combine_seal_pair hS (hS.valid_aggregate hl) (hS.valid_aggregate hm)
        _ _).symm
      rw [← hS.aggregate_append hl hm]
      rfl

/-- **Groups are merged one by one as they are in one go.** -/
theorem combine_flatten (groups : List (List (Option Bundle))) :
    (do combine S .ready ((← groups.mapM (combine S .ready)).map some)) =
      combine S .ready groups.flatten := by
  induction groups with
  | nil => rfl
  | cons group groups ih =>
    rw [List.flatten_cons, combine_append hS, ← ih, List.mapM_cons]
    cases hgroup : combine S .ready group with
    | error e => rfl
    | ok a =>
      cases hrest : groups.mapM (combine S .ready) with
      | error e => rfl
      | ok bs =>
        -- What the first group comes to stands in front of the others as a list of its own.
        refine (combine_append hS [some a] (bs.map some)).trans ?_
        rw [combine_singleton hS hgroup]
        rfl

end

/-! ## The law of groups -/

/-- **Bundles may be merged in groups.**  However a list is cut into consecutive groups, empty and
unsigned ones included, merging what the groups come to is merging the list, with the same refusal
if a signature is invalid.  A merger holds the spends of the signed bundles in order; it is refused
for an invalid signature among them and for nothing else. -/
theorem combine_groups (hS : S.Lawful) {bundles : List (Option Bundle)}
    {groups : List (List (Option Bundle))} (hcut : groups.flatten = bundles) :
    (do combine S .ready ((← groups.mapM (combine S .ready)).map some)) =
        combine S .ready bundles ∧
      (∀ b, combine S .ready bundles = .ok b →
        b.spends = (bundles.filterMap id).flatMap Bundle.kept ∧
        ∀ c, some c ∈ bundles → c.signature ≠ [] →
          ∃ s, S.signatureOfBytes? c.signature = some s) ∧
      ∀ e, combine S .ready bundles = .error e → ∃ c, some c ∈ bundles ∧ c.signature ≠ [] ∧
        S.signatureOfBytes? c.signature = none ∧ e = .invalidSignature c.signature := by
  subst hcut
  refine ⟨combine_flatten hS groups, fun b h => ?_, fun e h => ?_⟩
  · obtain ⟨-, signatures, hread, rfl⟩ := combine_eq_ok_iff.1 h
    refine ⟨flatMap_signedBundles_some _, fun c hc hsigned => ?_⟩
    obtain ⟨s, -, hs⟩ :=
      Outcome.exists_of_mem_mapM_left hread (mem_signedBundles_iff.2 ⟨hc, hsigned⟩)
    exact ⟨s, Scheme.signatureOf_eq_ok_iff.1 hs⟩
  · obtain ⟨before, c, rest, hsplit, -, hc⟩ :=
      Outcome.mapM_eq_error_iff.1 (combine_ready_eq_error_iff.1 h)
    have hmem : c ∈ signedBundles groups.flatten := by
      rw [hsplit]
      exact List.mem_append_right _ List.mem_cons_self
    obtain ⟨hthere, hsigned⟩ := mem_signedBundles_iff.1 hmem
    exact ⟨c, hthere, hsigned, Scheme.signatureOf_eq_error_iff.1 hc⟩

/-- A spend of a coin whose parent is a repeated byte. -/
def sampleSpend (x : UInt8) : Spend where
  coin := ⟨List.replicate 32 x, List.replicate 32 x, 1, List.length_replicate,
    List.length_replicate⟩
  puzzleReveal := [0xFF, 0x01, 0x80]
  solution := [x]

/-- Bundles under two signatures that cancel out, one that is missing and one that is unsigned. -/
def sampleGroups : List (List (Option Bundle)) :=
  [[some (Scheme.triad.seal Triad.generator [sampleSpend 1]), none], [],
    [some ⟨[], [sampleSpend 2]⟩], [some (Scheme.triad.seal Triad.opposite [sampleSpend 3])]]

/-- The sample in groups, and again with a signature that is none. -/
theorem combine_groups_sampleGroups :
    Scheme.triad.Lawful ∧
      (do combine Scheme.triad .ready
            ((← sampleGroups.mapM (combine Scheme.triad .ready)).map some)) =
        .ok ⟨Curve.infinityBytes 96, [sampleSpend 1, sampleSpend 3]⟩ ∧
      (do combine Scheme.triad .ready
            ((← ([some (Bundle.mk [1] [])] :: sampleGroups).mapM
              (combine Scheme.triad .ready)).map some)) =
        .error (.invalidSignature [1]) :=
  ⟨Scheme.triad_lawful, (combine_groups Scheme.triad_lawful rfl).1.trans rfl,
    (combine_groups Scheme.triad_lawful rfl).1.trans rfl⟩

end CoinPuzzles
