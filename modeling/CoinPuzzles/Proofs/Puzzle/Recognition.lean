import CoinPuzzles.Proofs.Outcome
import CoinPuzzles.Proofs.Program.CurryShape
import CoinPuzzles.Proofs.Program.Encoding
import CoinPuzzles.Proofs.Program.HashEvaluation
import CoinPuzzles.Proofs.Template.Registered
import CoinPuzzles.Puzzle.Simplify
import Mathlib.Data.List.Forall2

/-!
# Proofs/Puzzle/Recognition — a simplified puzzle stands for the program it came from

`recognise` has four outcomes, and each of them keeps the program: `rebuild_recognise`, by
induction along the curried arguments.  A program past the depth limit stays whole, so nothing is
lost there either: `rebuild_simplify`.
-/

namespace CoinPuzzles

open Program (sizeLimit depthLimit)

variable {r : Registry}

/-! ## The outcomes of recognition -/

/-- **A registered program is its template**, with nothing bound. -/
theorem recognise_registered {p : Program} {name : String}
    (hname : r.nameOf? p.merkle = some name) :
    recognise r p = .template name [] false := by
  rw [recognise, hname]

theorem recognise_shapeless {p : Program} (hname : r.nameOf? p.merkle = none)
    (hshape : p.uncurry? = none) : recognise r p = .raw p.toHex := by
  rw [recognise, hname]
  dsimp only
  split
  · rfl
  · next h => exact absurd (hshape.symm.trans h) (by simp)

/-- A curried program with an unknown module is a leaf as a whole, whatever its arguments are. -/
theorem recognise_unknown_module {p module : Program} {args : List Program}
    (hname : r.nameOf? p.merkle = none) (hshape : p.uncurry? = some (module, args))
    (hmodule : r.nameOf? module.merkle = none) : recognise r p = .raw p.toHex := by
  rw [recognise, hname]
  dsimp only
  split
  · rfl
  · next h =>
    obtain ⟨rfl, rfl⟩ := Prod.mk.inj (Option.some.inj (hshape.symm.trans h))
    rw [hmodule]

/-- **A curried program with a registered module is its template**, and its arguments are recognised
in turn. -/
theorem recognise_curried {p module : Program} {args : List Program} {name : String}
    (hname : r.nameOf? p.merkle = none) (hshape : p.uncurry? = some (module, args))
    (hmodule : r.nameOf? module.merkle = some name) :
    recognise r p = .template name (args.map (recognise r)) true := by
  rw [recognise, hname]
  dsimp only
  split
  · next h => exact absurd (hshape.symm.trans h) (by simp)
  · next h =>
    obtain ⟨rfl, rfl⟩ := Prod.mk.inj (Option.some.inj (hshape.symm.trans h))
    rw [hmodule]
    exact congrArg (Node.template name · true) List.attach_map_val

/-! ## The program of a node -/

namespace Node

theorem rebuild_raw_eq_ok_iff {hex : String} {p : Program} :
    rebuild r (.raw hex) = .ok p ↔ Program.ofHex hex = .ok p := by
  rw [rebuild, Outcome.mapError_eq_ok_iff]

/-- A registered template is its program alone, or curried with the programs of its arguments. -/
theorem rebuild_template {t : Template} (ht : t ∈ r.templates) (args : List Node)
    (curried : Bool) :
    rebuild r (.template t.name args curried) =
      if args.isEmpty && !curried then pure t.program
      else do return t.program.curry (← rebuildAll r args) := by
  rw [rebuild, Registry.get_eq_ok_iff.2 ⟨ht, rfl⟩]
  rfl

theorem rebuild_bare {t : Template} (ht : t ∈ r.templates) :
    rebuild r (.template t.name [] false) = .ok t.program :=
  rebuild_template ht [] false

/-- **A bound template is rebuilt exactly if its arguments are**, to the module with them bound. -/
theorem rebuild_curried_eq_ok_iff {t : Template} {args : List Node} {p : Program}
    (ht : t ∈ r.templates) :
    rebuild r (.template t.name args true) = .ok p ↔
      ∃ ps, rebuildAll r args = .ok ps ∧ t.program.curry ps = p := by
  rw [rebuild_template ht, Bool.not_true, Bool.and_false, if_neg Bool.false_ne_true,
    Outcome.bind_eq_ok_iff]
  exact exists_congr fun _ => and_congr_right fun _ => Outcome.pure_eq_ok_iff

theorem rebuildAll_eq_ok_iff : ∀ {args : List Node} {ps : List Program},
    rebuildAll r args = .ok ps ↔ List.Forall₂ (fun a p => rebuild r a = .ok p) args ps := by
  intro args
  induction args with
  | nil =>
    intro ps
    rw [rebuildAll, List.forall₂_nil_left_iff, Except.ok.injEq]
    exact eq_comm
  | cons a args ih =>
    intro ps
    rw [rebuildAll, List.forall₂_cons_left_iff, Outcome.bind_eq_ok_iff]
    constructor
    · rintro ⟨p, hp, h⟩
      obtain ⟨qs, hqs, h⟩ := Outcome.bind_eq_ok_iff.1 h
      exact ⟨p, qs, hp, ih.1 hqs, (Outcome.pure_eq_ok_iff.1 h).symm⟩
    · rintro ⟨p, qs, hp, hqs, rfl⟩
      exact ⟨p, hp, Outcome.bind_eq_ok_iff.2 ⟨qs, ih.2 hqs, rfl⟩⟩

end Node

/-! ## Nothing is lost -/

/-- What is kept of a program as leaves can be written.  Nothing else of it is written, so atoms of
any size may stand in a registered program and in the module that a program binds arguments into,
unless the program is past the depth limit and kept whole. -/
inductive LeavesFit (r : Registry) : Program → Prop where
  | whole {p : Program} (hatoms : ∀ b ∈ p.atoms, b.length < sizeLimit) : LeavesFit r p
  | registered {t : Template} (ht : t ∈ r.templates) : LeavesFit r t.program
  | curried {t : Template} {args : List Program} (ht : t ∈ r.templates)
    (hdepth : (t.program.curry args).depth ≤ depthLimit) (hargs : ∀ a ∈ args, LeavesFit r a) :
    LeavesFit r (t.program.curry args)

/-- **What becomes a leaf is read back from its digits**: being neither registered nor a registered
module with arguments, it can only be written as a whole. -/
theorem LeavesFit.ofHex_toHex {p : Program} (h : LeavesFit r p)
    (hp : r.nameOf? p.merkle = none)
    (hmodule : ∀ module args, p.uncurry? = some (module, args) → r.nameOf? module.merkle = none) :
    Program.ofHex p.toHex = .ok p := by
  cases h with
  | whole hatoms => exact Program.ofHex_toHex hatoms
  | registered ht => exact absurd ((Registry.nameOf?_program ht).symm.trans hp) (by simp)
  | curried ht _ _ =>
    have hname := hmodule _ _ (Program.uncurry?_curry _ _)
    exact absurd ((Registry.nameOf?_program ht).symm.trans hname) (by simp)

/-- **The arguments of a program are kept as well as it is**, by the three ways to be: their atoms
are among those of the whole, or they were asked for. -/
theorem LeavesFit.of_mem_args {module arg : Program} {args : List Program}
    (h : LeavesFit r (module.curry args)) (hp : r.nameOf? (module.curry args).merkle = none)
    (harg : arg ∈ args) : LeavesFit r arg := by
  generalize hshape : module.curry args = p at h hp
  cases h with
  | whole hatoms =>
    subst hshape
    have hsub := Program.subtree_curry_arg module harg
    exact .whole fun b hb => hatoms b (hsub.atoms_subset hb)
  | registered ht => exact absurd ((Registry.nameOf?_program ht).symm.trans hp) (by simp)
  | curried ht _ hargs =>
    obtain ⟨-, rfl⟩ := Program.curry_inj.1 hshape
    exact hargs arg harg

/-- **Rebuilding what was recognised gives the program back**, at any depth. -/
theorem LeavesFit.rebuild_recognise {p : Program} (h : LeavesFit r p)
    (hfree : Sha256.CollisionFree (p.messages ++ r.messages)) :
    (recognise r p).rebuild r = .ok p := by
  induction p using recognise.induct r with
  | case1 p name hname =>
    obtain ⟨t, ht, rfl, rfl⟩ := Registry.exists_template_of_nameOf? hfree hname
    rw [recognise_registered hname]
    exact Node.rebuild_bare ht
  | case2 p hname hshape =>
    rw [recognise_shapeless hname hshape, Node.rebuild_raw_eq_ok_iff]
    refine h.ofHex_toHex hname fun module args hfound => ?_
    exact absurd (hshape.symm.trans hfound) (by simp)
  | case3 p hname module args hshape hmodule =>
    rw [recognise_unknown_module hname hshape hmodule, Node.rebuild_raw_eq_ok_iff]
    refine h.ofHex_toHex hname fun module' args' hfound => ?_
    obtain ⟨rfl, rfl⟩ := Prod.mk.inj (Option.some.inj (hshape.symm.trans hfound))
    exact hmodule
  | case4 p hname module args hshape name hmodule ih =>
    rw [recognise_curried hname hshape hmodule]
    obtain rfl := Program.uncurry?_eq_some_iff.1 hshape
    have hpart := (Program.subtree_curry_module module args).collisionFree hfree
    obtain ⟨t, ht, rfl, rfl⟩ := Registry.exists_template_of_nameOf? hpart hmodule
    refine (Node.rebuild_curried_eq_ok_iff ht).2 ⟨args, ?_, rfl⟩
    rw [Node.rebuildAll_eq_ok_iff, List.forall₂_map_left_iff, List.forall₂_same]
    intro arg harg
    exact ih ⟨arg, harg⟩ (h.of_mem_args hname harg)
      ((Program.subtree_curry_arg t.program harg).collisionFree hfree)

/-- **A program of writable atoms is rebuilt from what it was recognised as**, unless hashes
collide. -/
theorem rebuild_recognise (p : Program) (hatoms : ∀ b ∈ p.atoms, b.length < sizeLimit)
    (hfree : Sha256.CollisionFree (p.messages ++ r.messages)) :
    (recognise r p).rebuild r = .ok p :=
  (LeavesFit.whole hatoms).rebuild_recognise hfree

/-- **Rebuilding a simplified puzzle gives the program back.** -/
theorem rebuild_simplify (r : Registry) (p : Program)
    (hatoms : ∀ b ∈ p.atoms, b.length < sizeLimit)
    (hfree : Sha256.CollisionFree (p.messages ++ r.messages)) :
    (simplify r p).rebuild r = .ok p := by
  rw [simplify]
  split
  · exact rebuild_recognise p hatoms hfree
  · rw [Node.rebuild_raw_eq_ok_iff]
    exact Program.ofHex_toHex hatoms

/-- The registry that has the atom `07` under the name `seven`. -/
def sevenRegistry : Registry := .single (.ofProgram "seven" (.atom [7]) (by decide))

/-- The registered atom with no arguments bound. -/
def boundSeven : Program := .curry (.atom [7]) []

/-- The few messages that are hashed for the bound atom and its registry have different digests. -/
theorem collisionFree_boundSeven :
    Sha256.CollisionFree (boundSeven.messages ++ sevenRegistry.messages) := by
  exact Program.collisionFree_of_nodup [boundSeven, .atom [7]] (by decide +kernel)

/-- A template with no arguments bound is not taken for the bare template. -/
theorem rebuild_simplify_boundSeven :
    (∀ b ∈ boundSeven.atoms, b.length < sizeLimit) ∧
      Sha256.CollisionFree (boundSeven.messages ++ sevenRegistry.messages) ∧
      (simplify sevenRegistry boundSeven).rebuild sevenRegistry = .ok boundSeven := by
  have hatoms : ∀ b ∈ boundSeven.atoms, b.length < sizeLimit := by decide
  exact ⟨hatoms, collisionFree_boundSeven,
    rebuild_simplify sevenRegistry boundSeven hatoms collisionFree_boundSeven⟩

end CoinPuzzles
