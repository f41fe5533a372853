import CoinPuzzles.Program.Basic

/-!
# Program/Curry — binding arguments into a module

A module with its arguments bound is the program `(a (q . module) (c (q . arg) … 1))`.  `uncurry?`
recognises exactly that shape: `uncurry?_curry` and `curry_of_uncurry?`.
-/

namespace CoinPuzzles.Program

/-- The operator that quotes its argument. -/
def quoteOp : Program := atom [1]

/-- The operator that applies a program to an environment. -/
def applyOp : Program := atom [2]

/-- The operator that makes a pair. -/
def consOp : Program := atom [4]

/-- The program that yields `p`. -/
def quote (p : Program) : Program := pair quoteOp p

/-- The environment program that puts the arguments in front of the caller's environment. -/
def environment : List Program → Program
  | [] => atom [1]
  | arg :: args => ofList [consOp, quote arg, environment args]

/-- The module with its arguments bound. -/
def curry (module : Program) (args : List Program) : Program :=
  ofList [applyOp, quote module, environment args]

/-- The arguments that an environment program puts in front. -/
def arguments? : Program → Option (List Program)
  | atom b => if b = [1] then some [] else none
  | pair (atom op) (pair (pair (atom q) arg) (pair rest (atom stop))) =>
    if op = [4] ∧ q = [1] ∧ stop = [] then (arguments? rest).map (arg :: ·) else none
  | pair _ _ => none

/-- The module and the arguments of a program with arguments bound. -/
def uncurry? : Program → Option (Program × List Program)
  | pair (atom op) (pair (pair (atom q) module) (pair env (atom stop))) =>
    if op = [2] ∧ q = [1] ∧ stop = [] then (arguments? env).map (module, ·) else none
  | _ => none

theorem arguments?_environment : ∀ args : List Program, arguments? (environment args) = some args
  | [] => rfl
  | arg :: args => by
    simp [environment, ofList, quote, consOp, quoteOp, nil, arguments?,
      arguments?_environment args]

/-- **Uncurrying undoes currying.** -/
theorem uncurry?_curry (module : Program) (args : List Program) :
    uncurry? (curry module args) = some (module, args) := by
  simp [curry, ofList, quote, applyOp, quoteOp, nil, uncurry?, arguments?_environment]

theorem environment_of_arguments? : ∀ {env : Program} {args : List Program},
    env.arguments? = some args → environment args = env
  | atom b, args, h => by
    simp only [arguments?] at h
    split at h
    · next hb =>
      obtain rfl := Option.some.inj h
      rw [hb, environment]
    · cases h
  | pair (atom op) (pair (pair (atom q) arg) (pair rest (atom stop))), args, h => by
    simp only [arguments?] at h
    split at h
    · next hs =>
      obtain ⟨tail, ht, rfl⟩ := Option.map_eq_some_iff.1 h
      obtain ⟨rfl, rfl, rfl⟩ := hs
      rw [environment, environment_of_arguments? ht]
      rfl
    · cases h
  | pair (pair _ _) _, _, h => by simp [arguments?] at h
  | pair (atom _) (atom _), _, h => by simp [arguments?] at h
  | pair (atom _) (pair (atom _) _), _, h => by simp [arguments?] at h
  | pair (atom _) (pair (pair (pair _ _) _) _), _, h => by simp [arguments?] at h
  | pair (atom _) (pair (pair (atom _) _) (atom _)), _, h => by simp [arguments?] at h
  | pair (atom _) (pair (pair (atom _) _) (pair _ (pair _ _))), _, h => by simp [arguments?] at h

/-- **Currying what was uncurried gives the program back.** -/
theorem curry_of_uncurry? {p module : Program} {args : List Program}
    (h : p.uncurry? = some (module, args)) : curry module args = p := by
  unfold uncurry? at h
  split at h
  · split at h
    · next hs =>
      obtain ⟨as, has, he⟩ := Option.map_eq_some_iff.1 h
      obtain ⟨rfl, rfl⟩ := Prod.mk.inj he
      obtain ⟨rfl, rfl, rfl⟩ := hs
      rw [curry, environment_of_arguments? has]
      rfl
    · cases h
  · cases h

end CoinPuzzles.Program
