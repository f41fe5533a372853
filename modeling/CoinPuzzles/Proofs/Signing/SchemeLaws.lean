import CoinPuzzles.Proofs.Signing.Bundles
import Mathlib.Algebra.BigOperators.Group.List.Basic
import Mathlib.Algebra.Group.TransferInstance
import Mathlib.Data.Set.List

/-!
# Proofs/Signing/SchemeLaws — what signing and merging rely on

A signature is valid if it has a byte form.  `Scheme.Lawful` says what is promised of the valid
ones: reading and writing undo each other, and they form a commutative group whose sums are the
aggregates.  What follows for lists of signatures is `Lawful.aggregate_append`: an aggregate may be
taken in two parts.  `triad` is a lawful scheme of three signatures of the ledger.
-/

namespace CoinPuzzles

namespace Scheme

variable {S : Scheme}

/-- The signature has a byte form. -/
def Valid (S : Scheme) (s : S.Signature) : Prop := ∃ b, S.signatureOfBytes? b = some s

/-- **The laws of aggregate signatures.** -/
structure Lawful (S : Scheme) : Prop where
  /-- A signature is read from no form but the one that is written. -/
  signatureBytes_eq {b : Bytes} {s : S.Signature} (h : S.signatureOfBytes? b = some s) :
    S.signatureBytes s = b
  length_signatureBytes {s : S.Signature} (h : S.Valid s) : (S.signatureBytes s).length = 96
  /-- The aggregate of no signatures is the neutral element. -/
  exists_sum : ∃ _ : AddCommGroup {s // S.Valid s}, ∀ l : List {s // S.Valid s},
    S.aggregate (l.map Subtype.val) = l.sum
  valid_sign (key : S.Key) (message : Bytes) : S.Valid (S.sign key message)

/-- Bytes are read as a signature exactly if they are the form of one. -/
theorem signatureOf_eq_ok_iff {b : Bytes} {s : S.Signature} :
    S.signatureOf b = .ok s ↔ S.signatureOfBytes? b = some s := by
  rw [signatureOf]
  cases S.signatureOfBytes? b <;> simp

theorem signatureOf_eq_error_iff {b : Bytes} {e : SigningError} :
    S.signatureOf b = .error e ↔ S.signatureOfBytes? b = none ∧ e = .invalidSignature b := by
  rw [signatureOf]
  cases S.signatureOfBytes? b <;> simp [eq_comm]

namespace Lawful

variable (hS : S.Lawful)
include hS

/-- **Reading undoes writing.** -/
theorem signatureOf_signatureBytes {s : S.Signature} (h : S.Valid s) :
    S.signatureOf (S.signatureBytes s) = .ok s := by
  obtain ⟨b, hb⟩ := h
  rw [hS.signatureBytes_eq hb, signatureOf_eq_ok_iff, hb]

/-- The form of a signature is not empty, so it never counts as missing. -/
theorem signatureBytes_ne_nil {s : S.Signature} (h : S.Valid s) : S.signatureBytes s ≠ [] := by
  intro hnil
  have hlength := hS.length_signatureBytes h
  rw [hnil] at hlength
  cases hlength

/-- **What is aggregated of signatures is one**, by induction on them. -/
theorem valid_aggregate {l : List S.Signature} (h : ∀ s ∈ l, S.Valid s) :
    S.Valid (S.aggregate l) := by
  obtain ⟨_, hsum⟩ := hS.exists_sum
  lift l to List {s // S.Valid s} using h
  rw [hsum]
  exact l.sum.property

theorem aggregate_singleton {s : S.Signature} (h : S.Valid s) : S.aggregate [s] = s := by
  obtain ⟨_, hsum⟩ := hS.exists_sum
  have hsingle := hsum [⟨s, h⟩]
  rwa [List.sum_singleton] at hsingle

/-- **An aggregate may be taken in two parts**, empty ones included. -/
theorem aggregate_append {l m : List S.Signature} (hl : ∀ s ∈ l, S.Valid s)
    (hm : ∀ s ∈ m, S.Valid s) :
    S.aggregate (l ++ m) = S.aggregate [S.aggregate l, S.aggregate m] := by
  obtain ⟨_, hsum⟩ := hS.exists_sum
  lift l to List {s // S.Valid s} using hl
  lift m to List {s // S.Valid s} using hm
  have hparts := hsum [l.sum, m.sum]
  rw [List.sum_cons, List.sum_singleton] at hparts
  rw [hsum l, hsum m, ← List.map_append, hsum, List.sum_append, ← hparts]
  rfl

end Lawful

end Scheme

/-! ## A lawful scheme of three signatures -/

/-- The neutral signature, a generator of the group of signatures, and its opposite. -/
inductive Triad where
  | infinity
  | generator
  | opposite
deriving DecidableEq

namespace Triad

/-- The sum of two of them.  Twice one of the last two is the other. -/
def add : Triad → Triad → Triad
  | infinity, b => b
  | a, infinity => a
  | generator, generator => opposite
  | opposite, opposite => generator
  | _, _ => infinity

/-- The signature that cancels out the given one. -/
def neg : Triad → Triad
  | infinity => infinity
  | generator => opposite
  | opposite => generator

instance : Add Triad := ⟨add⟩

instance : Zero Triad := ⟨infinity⟩

instance : Neg Triad := ⟨neg⟩

instance : AddCommGroup Triad where
  nsmul := nsmulRec
  zsmul := zsmulRec
  add_assoc := by rintro ⟨⟩ ⟨⟩ ⟨⟩ <;> rfl
  zero_add := by rintro ⟨⟩ <;> rfl
  add_zero := by rintro ⟨⟩ <;> rfl
  add_comm := by rintro ⟨⟩ ⟨⟩ <;> rfl
  neg_add_cancel := by rintro ⟨⟩ <;> rfl

/-- The points of the ledger's curve.  But for the sum of two equal ones, what the three add up to
is what their points add up to (`point_add`). -/
def point : Triad → Curve.Point Curve.Fp2
  | infinity => .infinity
  | generator => .affine x y
  | opposite => .affine x (-y)
where
  x := ⟨Curve.Fp.ofNat
      0x024aa2b2f08f0a91260805272dc51051c6e47ad4fa403b02b4510b647ae3d1770bac0326a805bbefd48056c8c121bdb8,
    Curve.Fp.ofNat
      0x13e02b6052719f607dacd3a088274f65596bd0d09920b61ab5da61bbdc7f5049334cf11213945d57e5ac7d055d042b7e⟩
  y := ⟨Curve.Fp.ofNat
      0x0ce5d527727d6e118cc9cdc6da2e351aadfd9baa8cbdd3a76d429a695160d12c923ac9cc3baca289e193548608b82801,
    Curve.Fp.ofNat
      0x0606c4a02ea734cc32acd2b02bc28b99cb3e287e85a763af267492ab572e99ab3f370d275cec1da1aaa9075ff05f79be⟩

/-- **The three add up as their points do**, except that doubling is not looked at. -/
theorem point_add (a b : Triad) (h : a = infinity ∨ b = infinity ∨ a ≠ b) :
    (a.add b).point = a.point.add b.point := by
  revert h
  cases a <;> cases b <;> decide +kernel

/-- The form of one of the three. -/
def toBytes (n : Triad) : Bytes := Curve.signatureBytes n.point

/-- The one of the three that has the form. -/
def ofBytes? (b : Bytes) : Option Triad :=
  [infinity, generator, opposite].find? fun n => n.toBytes == b

/-- Each of the three is read back from its form, and from no other. -/
theorem ofBytes?_eq_some_iff {b : Bytes} {n : Triad} : ofBytes? b = some n ↔ n.toBytes = b := by
  constructor
  · intro h
    have hfound := List.find?_some h
    exact beq_iff_eq.1 hfound
  · rintro rfl
    cases n <;> decide +kernel

end Triad

namespace Scheme

/-- The scheme of the three.  Its one key is zero, which signs everything by infinity. -/
def triad : Scheme where
  Key := Unit
  Signature := Triad
  keyOfBytes? b := if b = List.replicate 32 0 then some () else none
  publicKey _ := Curve.keyBytes .infinity
  sign _ _ := .infinity
  signatureOfBytes? := Triad.ofBytes?
  signatureBytes := Triad.toBytes
  aggregate := List.foldr Triad.add .infinity

theorem triad_valid (n : Triad) : triad.Valid n := ⟨_, Triad.ofBytes?_eq_some_iff.2 rfl⟩

/-- **The three obey the laws of a scheme**, so the laws can be met with points of the real
curve. -/
theorem triad_lawful : triad.Lawful where
  signatureBytes_eq := Triad.ofBytes?_eq_some_iff.1
  length_signatureBytes {n} _ := Curve.length_signatureBytes n.point
  exists_sum := by
    let e : {n // triad.Valid n} ≃ Triad := Equiv.subtypeUnivEquiv triad_valid
    let _ := e.addCommGroup
    refine ⟨inferInstance, fun l => ?_⟩
    exact (map_list_sum e.addEquiv l).symm
  valid_sign _ _ := triad_valid .infinity

end Scheme

end CoinPuzzles
