import CoinPuzzles.Proofs.Puzzle.Recognition

/-!
# Proofs/Puzzle/Leaves — what a node keeps as it is

`kept` lists the programs that the node of a program keeps as leaves, without writing them down: the
texts of the leaves are those of these programs (`leaves_simplify`).  They are parts of the program,
so they can be written if it can (`fits_of_mem_kept`).
-/

namespace CoinPuzzles

variable {r : Registry}

/-! ## The leaves of a node -/

mutual

/-- The texts of the leaves of a node. -/
def Node.leaves : Node → List String
  | .raw hex => [hex]
  | .template _ args _ => leavesAll args

/-- The texts of the leaves of nodes. -/
def Node.leavesAll : List Node → List String
  | [] => []
  | a :: as => a.leaves ++ leavesAll as

end

theorem Node.leavesAll_eq_flatMap (as : List Node) : leavesAll as = as.flatMap leaves := by
  induction as with
  | nil => rfl
  | cons a as ih => rw [leavesAll, ih, List.flatMap_cons]

/-! ## The programs that are kept

As with `recognise`, there are four cases. -/

theorem unrecognised_registered {p : Program} {name : String}
    (hname : r.nameOf? p.merkle = some name) : unrecognised r p = [] := by
  rw [unrecognised, hname]

theorem unrecognised_shapeless {p : Program} (hname : r.nameOf? p.merkle = none)
    (hshape : p.uncurry? = none) : unrecognised r p = [p] := by
  rw [unrecognised, hname]
  dsimp only
  split
  · rfl
  · next h => exact absurd (hshape.symm.trans h) (by simp)

theorem unrecognised_unknown_module {p module : Program} {args : List Program}
    (hname : r.nameOf? p.merkle = none) (hshape : p.uncurry? = some (module, args))
    (hmodule : r.nameOf? module.merkle = none) : unrecognised r p = [p] := by
  rw [unrecognised, hname]
  dsimp only
  split
  · rfl
  · next h =>
    obtain ⟨rfl, rfl⟩ := Prod.mk.inj (Option.some.inj (hshape.symm.trans h))
    rw [hmodule]

/-- **Of a recognised module only the arguments can have unrecognised parts.** -/
theorem unrecognised_curried {p module : Program} {args : List Program} {name : String}
    (hname : r.nameOf? p.merkle = none) (hshape : p.uncurry? = some (module, args))
    (hmodule : r.nameOf? module.merkle = some name) :
    unrecognised r p = args.flatMap (unrecognised r) := by
  rw [unrecognised, hname]
  dsimp only
  split
  · next h => exact absurd (hshape.symm.trans h) (by simp)
  · next h =>
    obtain ⟨rfl, rfl⟩ := Prod.mk.inj (Option.some.inj (hshape.symm.trans h))
    rw [hmodule]
    dsimp only
    rw [← List.flatMap_map Subtype.val, List.attach_map_subtype_val]

/-- **The leaves of a node are the texts of the programs that are kept.** -/
theorem leaves_recognise (r : Registry) (p : Program) :
    (recognise r p).leaves = (unrecognised r p).map Program.toHex := by
  induction p using recognise.induct r with
  | case1 p name hname =>
    rw [recognise_registered hname, unrecognised_registered hname]
    rfl
  | case2 p hname hshape =>
    rw [recognise_shapeless hname hshape, unrecognised_shapeless hname hshape]
    rfl
  | case3 p hname module args hshape hmodule =>
    rw [recognise_unknown_module hname hshape hmodule,
      unrecognised_unknown_module hname hshape hmodule]
    rfl
  | case4 p hname module args hshape name hmodule ih =>
    rw [recognise_curried hname hshape hmodule, unrecognised_curried hname hshape hmodule,
      Node.leaves, Node.leavesAll_eq_flatMap, List.flatMap_map, List.map_flatMap]
    exact List.flatMap_congr fun a ha => ih ⟨a, ha⟩

/-- **The leaves of a simplified puzzle are the digits of what is kept**, in order. -/
theorem leaves_simplify (r : Registry) (p : Program) :
    (simplify r p).leaves = (kept r p).map Program.toHex := by
  rw [simplify, kept]
  split
  · exact leaves_recognise r p
  · rfl

/-- What is kept of a program that can be written can be written. -/
theorem fits_of_mem_unrecognised {p q : Program} (hp : p.fits = true)
    (hq : q ∈ unrecognised r p) : q.fits = true := by
  induction p using recognise.induct r with
  | case1 p name hname =>
    rw [unrecognised_registered hname] at hq
    cases hq
  | case2 p hname hshape =>
    rw [unrecognised_shapeless hname hshape, List.mem_singleton] at hq
    exact hq ▸ hp
  | case3 p hname module args hshape hmodule =>
    rw [unrecognised_unknown_module hname hshape hmodule, List.mem_singleton] at hq
    exact hq ▸ hp
  | case4 p hname module args hshape name hmodule ih =>
    rw [unrecognised_curried hname hshape hmodule] at hq
    obtain ⟨a, ha, hqa⟩ := List.mem_flatMap.1 hq
    obtain rfl := Program.uncurry?_eq_some_iff.1 hshape
    exact ih ⟨a, ha⟩ ((Program.fits_curry.1 hp).2 a ha) hqa

/-- What is kept of a program that can be written can be written. -/
theorem fits_of_mem_kept {p q : Program} (hp : p.fits = true) (hq : q ∈ kept r p) :
    q.fits = true := by
  rw [kept] at hq
  split at hq
  · exact fits_of_mem_unrecognised hp hq
  · exact List.mem_singleton.1 hq ▸ hp

end CoinPuzzles
