import CoinPuzzles.Program.Curry

/-!
# Proofs/Program/CurryShape — the programs that have arguments bound

`Curried p module args` writes the shape `(a (q . module) (c (q . arg) … 1))` out, byte by byte and
without `curry`.  Main statement: `uncurry?` finds exactly the programs of this shape, and they are
the ones that `curry` makes.
-/

namespace CoinPuzzles.Program

/-- The program is `(c (q . arg) … 1)`, one step for every argument in order. -/
inductive Binds : Program → List Program → Prop where
  | caller : Binds (atom [1]) []
  | cons {env : Program} {args : List Program} (arg : Program) (rest : Binds env args) :
    Binds (pair (atom [4]) (pair (pair (atom [1]) arg) (pair env (atom [])))) (arg :: args)

/-- The program is `(a (q . module) env)` for an environment that binds the arguments. -/
def Curried (p module : Program) (args : List Program) : Prop :=
  ∃ env, Binds env args ∧
    p = pair (atom [2]) (pair (pair (atom [1]) module) (pair env (atom [])))

theorem binds_environment : ∀ args : List Program, Binds (environment args) args
  | [] => .caller
  | arg :: args => .cons arg (binds_environment args)

theorem Binds.eq_environment {env : Program} {args : List Program} (h : Binds env args) :
    env = environment args := by
  induction h with
  | caller => rfl
  | cons arg _ ih =>
    rw [ih]
    rfl

theorem curried_iff {p module : Program} {args : List Program} :
    Curried p module args ↔ p = curry module args := by
  constructor
  · rintro ⟨env, henv, rfl⟩
    rw [henv.eq_environment]
    rfl
  · rintro rfl
    exact ⟨environment args, binds_environment args, rfl⟩

theorem uncurry?_eq_some_iff {p module : Program} {args : List Program} :
    p.uncurry? = some (module, args) ↔ p = curry module args := by
  constructor
  · exact fun h => (curry_of_uncurry? h).symm
  · rintro rfl
    exact uncurry?_curry module args

theorem curry_inj {module module' : Program} {args args' : List Program} :
    curry module args = curry module' args' ↔ module = module' ∧ args = args' := by
  constructor
  · intro h
    have hpair := uncurry?_curry module args
    rw [h, uncurry?_curry] at hpair
    obtain ⟨rfl, rfl⟩ := Prod.mk.inj (Option.some.inj hpair)
    exact ⟨rfl, rfl⟩
  · rintro ⟨rfl, rfl⟩
    rfl

/-- Binding arguments into a module makes another program of it, be the arguments none. -/
theorem curry_ne (module : Program) (args : List Program) : curry module args ≠ module := by
  intro h
  have hsize := congrArg sizeOf h
  simp only [curry, ofList, quote, List.foldr_cons, pair.sizeOf_spec] at hsize
  omega

/-- **Uncurrying recognises exactly what currying makes**, with the module and the arguments in
their order, and refuses every program of another shape. -/
theorem uncurry?_image_curry (p : Program) :
    (∀ module args, p.uncurry? = some (module, args) ↔ p = curry module args) ∧
    (∀ args, (curry p args).uncurry? = some (p, args)) ∧
    (∀ module args, p = curry module args ↔ Curried p module args) ∧
    (p.uncurry? = none ↔ ¬ ∃ module args, Curried p module args) := by
  refine ⟨fun _ _ => uncurry?_eq_some_iff, uncurry?_curry p, fun _ _ => curried_iff.symm, ?_⟩
  constructor
  · rintro hnone ⟨module, args, hshape⟩
    have hsome := uncurry?_eq_some_iff.2 (curried_iff.1 hshape)
    exact absurd (hsome.symm.trans hnone) (by simp)
  · intro hshape
    cases hsome : p.uncurry? with
    | none => rfl
    | some found =>
      obtain ⟨module, args⟩ := found
      exact absurd ⟨module, args, curried_iff.2 (uncurry?_eq_some_iff.1 hsome)⟩ hshape

end CoinPuzzles.Program
