import CoinPuzzles.Proofs.Outcome
import CoinPuzzles.Runner.Session

/-!
# Proofs/Runner/Session — when a session succeeds

A session that succeeds has a result at each of its steps, and each step goes on from the calls of
the one before.  With a runner whose answers depend on the call alone, what a session comes to does
not depend on the calls before it: `Yields` says so step by step.
-/

namespace CoinPuzzles.Session

variable {ε ε' α β : Type} {earlier calls : List Call}

/-- **Two steps of a session succeed exactly if the second does after the first.** -/
theorem runFrom_bind_eq_ok_iff {s : Session ε α} {f : α → Session ε β} {b : β} :
    runFrom (s >>= f) earlier = (.ok b, calls) ↔
      ∃ a between, runFrom s earlier = (.ok a, between) ∧
        runFrom (f a) between = (.ok b, calls) := by
  rw [runFrom_bind]
  rcases runFrom s earlier with ⟨e | a, between⟩
  · simp
  · simp only [Prod.mk.injEq, Except.ok.injEq]
    constructor
    · exact fun h => ⟨a, between, ⟨rfl, rfl⟩, h⟩
    · rintro ⟨_, _, ⟨rfl, rfl⟩, h⟩
      exact h

theorem runFrom_ofExcept_eq_ok_iff {x : Except ε α} {a : α} :
    runFrom (ofExcept x) earlier = (.ok a, calls) ↔ x = .ok a ∧ earlier = calls := by
  rw [runFrom_ofExcept, Prod.mk.injEq]

theorem runFrom_mapError_eq_ok_iff {s : Session ε α} {f : ε → ε'} {a : α} :
    runFrom (s.mapError f) earlier = (.ok a, calls) ↔ runFrom s earlier = (.ok a, calls) := by
  rw [runFrom_mapError, Prod.mk.injEq, Outcome.mapError_eq_ok_iff, Prod.ext_iff]

theorem runFrom_pure_eq_ok_iff {a b : α} :
    runFrom (pure a : Session ε α) earlier = (.ok b, calls) ↔ a = b ∧ earlier = calls := by
  rw [runFrom_pure, Prod.mk.injEq, Except.ok.injEq]

/-- A last step that asks nothing changes the outcome alone. -/
theorem fst_runFrom_bind_pure (s : Session ε α) (f : α → β) (earlier : List Call) :
    (runFrom (s >>= fun a => pure (f a)) earlier).1 = (runFrom s earlier).1.map f := by
  rw [runFrom_bind]
  rcases runFrom s earlier with ⟨e | a, calls⟩ <;> rfl

/-! ## Sessions that do not depend on earlier calls -/

/-- The session has this outcome, whatever was asked before. -/
def Yields (s : Session ε α) (x : Except ε α) : Prop := ∀ earlier, (runFrom s earlier).1 = x

theorem yields_ofExcept (x : Except ε α) : (ofExcept x).Yields x :=
  fun earlier => congrArg Prod.fst (runFrom_ofExcept x earlier)

theorem yields_pure (a : α) : (pure a : Session ε α).Yields (.ok a) := fun _ => rfl

/-- **Sessions in sequence come to their results in sequence.** -/
theorem Yields.bind {s : Session ε α} {x : Except ε α} {f : α → Session ε β}
    {g : α → Except ε β} (hs : s.Yields x) (hf : ∀ a, (f a).Yields (g a)) :
    (s >>= f).Yields (x >>= g) := by
  intro earlier
  have hfirst := hs earlier
  rw [runFrom_bind]
  rcases hrun : runFrom s earlier with ⟨e | a, between⟩ <;> rw [hrun] at hfirst <;> subst hfirst
  · rfl
  · exact hf a between

/-- Renaming the failures of a session renames those it comes to. -/
theorem Yields.mapError {s : Session ε α} {x : Except ε α} (hs : s.Yields x) (f : ε → ε') :
    (s.mapError f).Yields (x.mapError f) := by
  intro earlier
  rw [runFrom_mapError, hs earlier]

/-- **A session for every element of a list**, one after another. -/
theorem yields_mapM {s : α → Session ε β} {g : α → Except ε β} (h : ∀ a, (s a).Yields (g a))
    (as : List α) : (as.mapM s).Yields (as.mapM g) := by
  induction as with
  | nil => exact yields_pure []
  | cons a as ih =>
    rw [List.mapM_cons, List.mapM_cons]
    exact (h a).bind fun b => ih.bind fun bs => yields_pure (b :: bs)

/-- **A runner without memory answers a call by itself**, whatever was asked before. -/
theorem yields_ask (answer : Call → Except ExecutionError String) (call : Call) :
    ((Runner.pure answer).ask call).Yields (answer call) :=
  fun earlier => congrArg Prod.fst ((Runner.pure answer).runFrom_ask call earlier)

end CoinPuzzles.Session
