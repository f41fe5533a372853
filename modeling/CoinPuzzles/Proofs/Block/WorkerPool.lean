import CoinPuzzles.Proofs.Outcome
import Mathlib.Logic.Relation

/-!
# Proofs/Block/WorkerPool — results do not depend on who finishes first

The tasks of a pool are handed out in order to a limited number of workers, who finish in any order.
The caller reads the results from the front and stops at the first refusal.

* `Step.sound` — what a step leaves on the board is right, and so is all that a run leaves there.
* `exists_step`, `Step.remaining_lt` — a pool with a worker goes on while a result is awaited, and
  not forever.
* `outcome_of_stuck`, `yields_iff` — so the caller gets what the tasks come to one after another,
  and nothing else.
-/

namespace CoinPuzzles.Pool

variable {ε α β : Type}

/-- What has become of a task. -/
inductive Stage (ε β : Type) where
  | waiting
  | running
  | done (result : Except ε β)

/-- The tasks of a pool in order, each with what has become of it. -/
abbrev Board (ε α β : Type) := List (α × Stage ε β)

/-- Whether no worker has taken the task. -/
def Stage.isWaiting : Stage ε β → Bool
  | waiting => true
  | _ => false

/-- Whether a worker is on the task. -/
def Stage.isRunning : Stage ε β → Bool
  | running => true
  | _ => false

/-- The number of workers that are on a task. -/
def atWork (board : Board ε α β) : Nat := board.countP (·.2.isRunning)

/-- A step of a pool of workers who do `f`. -/
inductive Step (f : α → Except ε β) (workers : Nat) : Board ε α β → Board ε α β → Prop where
  /-- A worker who is free takes the first task that waits. -/
  | start {before after : Board ε α β} {a : α} (hfirst : ∀ t ∈ before, !t.2.isWaiting)
      (hfree : atWork (before ++ (a, .waiting) :: after) < workers) :
      Step f workers (before ++ (a, .waiting) :: after) (before ++ (a, .running) :: after)
  /-- Any of the workers may be the next to finish. -/
  | finish {before after : Board ε α β} {a : α} :
      Step f workers (before ++ (a, .running) :: after) (before ++ (a, .done (f a)) :: after)

/-- The board before the first step. -/
def submitted (ε β : Type) (tasks : List α) : Board ε α β := tasks.map (·, .waiting)

/-- What the caller has read: all results, or those before a refusal and the refusal.  There is
nothing yet while the next result is awaited. -/
def outcome : Board ε α β → Option (Except ε (List β))
  | [] => some (.ok [])
  | (_, .done (.error e)) :: _ => some (.error e)
  | (_, .done (.ok b)) :: board => (outcome board).map (·.map (b :: ·))
  | (_, .waiting) :: _ => none
  | (_, .running) :: _ => none

/-- The caller may get this from a pool. -/
def Yields (f : α → Except ε β) (workers : Nat) (tasks : List α) (r : Except ε (List β)) : Prop :=
  ∃ board, Relation.ReflTransGen (Step f workers) (submitted ε β tasks) board ∧
    outcome board = some r

variable {f : α → Except ε β} {workers : Nat} {tasks : List α} {board board' : Board ε α β}

/-! ## What is on the board is right -/

/-- The board has the tasks in order, and the results on it are theirs. -/
structure Sound (f : α → Except ε β) (tasks : List α) (board : Board ε α β) : Prop where
  tasks_eq : board.map Prod.fst = tasks
  result_eq : ∀ {a r}, (a, .done r) ∈ board → r = f a

theorem sound_submitted (f : α → Except ε β) (tasks : List α) :
    Sound f tasks (submitted ε β tasks) where
  tasks_eq := by
    rw [submitted, List.map_map]
    exact List.map_id tasks
  result_eq h := by
    obtain ⟨_, -, h⟩ := List.mem_map.1 h
    cases h

/-- **A step leaves only right results on the board.** -/
theorem Step.sound (h : Step f workers board board') (hs : Sound f tasks board) :
    Sound f tasks board' := by
  obtain ⟨rfl, hresult⟩ := hs
  cases h with
  | start hfirst hfree =>
    refine ⟨by simp, fun {a r} hmem => hresult ?_⟩
    rcases List.mem_append.1 hmem with hmem | hmem
    · exact List.mem_append_left _ hmem
    · cases hmem with
      | tail _ hmem => exact List.mem_append_right _ (List.mem_cons_of_mem _ hmem)
  | finish =>
    refine ⟨by simp, fun {a r} hmem => ?_⟩
    rcases List.mem_append.1 hmem with hmem | hmem
    · exact hresult (List.mem_append_left _ hmem)
    · cases hmem with
      | head => rfl
      | tail _ hmem => exact hresult (List.mem_append_right _ (List.mem_cons_of_mem _ hmem))

/-- **A board that can be reached is sound**, by induction on the steps to it. -/
theorem sound_of_run (h : Relation.ReflTransGen (Step f workers) (submitted ε β tasks) board) :
    Sound f tasks board := by
  induction h with
  | refl => exact sound_submitted f tasks
  | tail _ hstep ih => exact hstep.sound ih

/-- **What the caller reads off a right board is what the tasks come to one after another.** -/
theorem Sound.outcome_eq (hs : Sound f tasks board) {r : Except ε (List β)}
    (h : outcome board = some r) : r = tasks.mapM f := by
  -- The caller and the computation both stop at the first task that is refused.
  induction board generalizing tasks r with
  | nil =>
    obtain rfl := hs.tasks_eq
    exact (Option.some.inj h).symm
  | cons t board ih =>
    obtain ⟨a, stage⟩ := t
    obtain rfl := hs.tasks_eq
    rw [List.map_cons, List.mapM_cons]
    cases stage with
    | waiting => cases h
    | running => cases h
    | done result =>
      rw [← hs.result_eq List.mem_cons_self]
      cases result with
      | error e => exact (Option.some.inj h).symm
      | ok b =>
        obtain ⟨r', hr', rfl⟩ := Option.map_eq_some_iff.1 h
        rw [ih ⟨rfl, fun hmem => hs.result_eq (List.mem_cons_of_mem _ hmem)⟩ hr']
        cases board.map Prod.fst |>.mapM f <;> rfl

/-! ## A pool goes on until the caller has an outcome -/

/-- The steps that a task still takes. -/
def Stage.remaining : Stage ε β → Nat
  | waiting => 2
  | running => 1
  | done _ => 0

/-- The steps that the tasks still take. -/
def remaining : Board ε α β → Nat
  | [] => 0
  | (_, stage) :: board => stage.remaining + remaining board

theorem remaining_append (before after : Board ε α β) :
    remaining (before ++ after) = remaining before + remaining after := by
  induction before with
  | nil => exact (Nat.zero_add _).symm
  | cons t before ih => rw [List.cons_append, remaining, remaining, ih, Nat.add_assoc]

/-- **Every step leaves less to do**, so a pool comes to rest. -/
theorem Step.remaining_lt (h : Step f workers board board') :
    remaining board' < remaining board := by
  cases h with
  | start hfirst hfree => simp [remaining_append, remaining, Stage.remaining]
  | finish => simp [remaining_append, remaining, Stage.remaining]

theorem exists_unfinished (h : outcome board = none) :
    ∃ t ∈ board, t.2.isWaiting ∨ t.2.isRunning := by
  induction board with
  | nil => cases h
  | cons t board ih =>
    obtain ⟨a, stage⟩ := t
    cases stage with
    | waiting => exact ⟨_, List.mem_cons_self, .inl rfl⟩
    | running => exact ⟨_, List.mem_cons_self, .inr rfl⟩
    | done result =>
      cases result with
      | error e => cases h
      | ok b =>
        obtain ⟨t, ht, hstage⟩ := ih (Option.map_eq_none_iff.1 h)
        exact ⟨t, List.mem_cons_of_mem _ ht, hstage⟩

theorem exists_finish (h : 0 < atWork board) : ∃ board', Step f workers board board' := by
  obtain ⟨⟨a, stage⟩, ht, hstage⟩ := List.countP_pos_iff.1 h
  obtain ⟨before, after, rfl⟩ := List.append_of_mem ht
  cases stage with
  | waiting => cases hstage
  | done result => cases hstage
  | running => exact ⟨_, .finish⟩

/-- **A waiting task can be started if a worker is free.** -/
theorem exists_start (hfree : atWork board < workers) (h : ∃ t ∈ board, t.2.isWaiting) :
    ∃ board', Step f workers board board' := by
  obtain ⟨⟨a, stage⟩, hfound⟩ := Option.isSome_iff_exists.1 (List.find?_isSome.2 h)
  obtain ⟨hstage, before, after, rfl, hfirst⟩ := List.find?_eq_some_iff_append.1 hfound
  cases stage with
  | running => cases hstage
  | done result => cases hstage
  | waiting => exact ⟨_, .start hfirst hfree⟩

/-- **A pool with a worker takes a step while the caller waits.** -/
theorem exists_step (hworkers : 0 < workers) (h : outcome board = none) :
    ∃ board', Step f workers board board' := by
  rcases Nat.eq_zero_or_pos (atWork board) with hidle | hbusy
  · -- While nobody is at work there is a free worker for whatever waits.
    obtain ⟨t, ht, hwaiting | hrunning⟩ := exists_unfinished h
    · exact exists_start (hidle ▸ hworkers) ⟨t, ht, hwaiting⟩
    · exact exists_finish (List.countP_pos_iff.2 ⟨t, ht, hrunning⟩)
  · exact exists_finish hbusy

/-- **A run that cannot go on has the outcome of the tasks one after another.** -/
theorem outcome_of_stuck (hworkers : 0 < workers)
    (hrun : Relation.ReflTransGen (Step f workers) (submitted ε β tasks) board)
    (hstuck : ∀ board', ¬ Step f workers board board') :
    outcome board = some (tasks.mapM f) := by
  cases h : outcome board with
  | none =>
    obtain ⟨next, hstep⟩ := exists_step hworkers h
    exact absurd hstep (hstuck next)
  | some r => rw [(sound_of_run hrun).outcome_eq h]

/-- **Every run of a pool with a worker can be brought to an outcome.** -/
theorem exists_outcome (hworkers : 0 < workers) (board : Board ε α β) :
    ∃ board' r, Relation.ReflTransGen (Step f workers) board board' ∧ outcome board' = some r := by
  cases h : outcome board with
  | some r => exact ⟨board, r, .refl, h⟩
  | none =>
    obtain ⟨next, hstep⟩ := exists_step (f := f) hworkers h
    have := hstep.remaining_lt
    obtain ⟨board', r, hrun, hr⟩ := exists_outcome hworkers next
    exact ⟨board', r, .head hstep hrun, hr⟩
termination_by remaining board

/-- **Whoever finishes first, the caller gets what the tasks come to one after another.** -/
theorem yields_iff (hworkers : 0 < workers) {r : Except ε (List β)} :
    Yields f workers tasks r ↔ r = tasks.mapM f := by
  constructor
  · rintro ⟨board, hrun, hr⟩
    exact (sound_of_run hrun).outcome_eq hr
  · rintro rfl
    obtain ⟨board, r, hrun, hr⟩ := exists_outcome (f := f) hworkers (submitted ε β tasks)
    obtain rfl := (sound_of_run hrun).outcome_eq hr
    exact ⟨board, hrun, hr⟩

end CoinPuzzles.Pool
