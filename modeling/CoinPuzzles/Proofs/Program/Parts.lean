import CoinPuzzles.Program.Curry

/-!
# Proofs/Program/Parts — the atoms and the subtrees of a program

What holds of a whole tree and is asked of a part of it goes through `Subtree`: a part has no more
atoms (`Subtree.atoms_subset`) and no more levels (`Subtree.depth_le`) than the whole.  A curried
program has its module and its arguments among its subtrees.
-/

namespace CoinPuzzles.Program

/-- The byte strings at the leaves, from left to right. -/
def atoms : Program → List Bytes
  | atom b => [b]
  | pair p q => p.atoms ++ q.atoms

/-- The first program occurs in the second. -/
inductive Subtree : Program → Program → Prop where
  | refl (p : Program) : Subtree p p
  | left {s p : Program} (q : Program) (h : Subtree s p) : Subtree s (pair p q)
  | right {s q : Program} (p : Program) (h : Subtree s q) : Subtree s (pair p q)

/-- The atoms of a part are atoms of the whole. -/
theorem Subtree.atoms_subset {s p : Program} (h : Subtree s p) : s.atoms ⊆ p.atoms := by
  induction h with
  | refl => exact List.Subset.refl _
  | left q _ ih => exact fun b hb => List.mem_append_left _ (ih hb)
  | right p _ ih => exact fun b hb => List.mem_append_right _ (ih hb)

theorem Subtree.depth_le {s p : Program} (h : Subtree s p) : s.depth ≤ p.depth := by
  induction h with
  | refl => exact Nat.le_refl _
  | left q _ ih => exact Nat.le_trans ih (Nat.le_of_lt (depth_left_lt _ _))
  | right p _ ih => exact Nat.le_trans ih (Nat.le_of_lt (depth_right_lt _ _))

/-- The elements of a list are parts of it. -/
theorem subtree_ofList {p : Program} : ∀ {ps : List Program}, p ∈ ps → Subtree p (ofList ps)
  | q :: ps, h => by
    rcases List.mem_cons.1 h with rfl | h
    · exact .left _ (.refl _)
    · exact .right _ (subtree_ofList h)

theorem ofList_inj {ps qs : List Program} : ofList ps = ofList qs ↔ ps = qs := by
  constructor
  · intro h
    rw [← elements_ofList ps, h, elements_ofList]
  · rintro rfl
    rfl

/-- The arguments of an environment are parts of it. -/
theorem subtree_environment {arg : Program} : ∀ {args : List Program},
    arg ∈ args → Subtree arg (environment args)
  | a :: args, h => by
    rcases List.mem_cons.1 h with rfl | h
    · exact .right _ (.left _ (.right _ (.refl _)))
    · exact .right _ (.right _ (.left _ (subtree_environment h)))

/-- The module is a part of what it is curried to. -/
theorem subtree_curry_module (module : Program) (args : List Program) :
    Subtree module (curry module args) :=
  .right _ (.left _ (.right _ (.refl _)))

theorem subtree_curry_arg {arg : Program} {args : List Program} (module : Program)
    (h : arg ∈ args) : Subtree arg (curry module args) :=
  .right _ (.right _ (.left _ (subtree_environment h)))

end CoinPuzzles.Program
