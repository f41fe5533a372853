import CoinPuzzles.Program.Assembly
import CoinPuzzles.Puzzle.Node

/-!
# Puzzle/Simplify — recognising templates in a program

A program is a registered template, a registered template with arguments bound, or neither; only
then are the arguments looked into.  A program past the depth limit of the tree hash is kept whole.
-/

namespace CoinPuzzles

namespace Program

theorem sizeOf_lt_of_mem_arguments? : ∀ {env : Program} {args : List Program},
    env.arguments? = some args → ∀ a ∈ args, sizeOf a < sizeOf env
  | atom b, args, h, a, ha => by
    simp only [arguments?] at h
    split at h
    · obtain rfl := Option.some.inj h
      cases ha
    · cases h
  | pair (atom op) (pair (pair (atom q) arg) (pair rest (atom stop))), args, h, a, ha => by
    simp only [arguments?] at h
    split at h
    · obtain ⟨tail, ht, rfl⟩ := Option.map_eq_some_iff.1 h
      rcases List.mem_cons.1 ha with rfl | ha
      · simp; omega
      · have := sizeOf_lt_of_mem_arguments? ht a ha
        simp; omega
    · cases h
  | pair (pair _ _) _, _, h, _, _ => by simp [arguments?] at h
  | pair (atom _) (atom _), _, h, _, _ => by simp [arguments?] at h
  | pair (atom _) (pair (atom _) _), _, h, _, _ => by simp [arguments?] at h
  | pair (atom _) (pair (pair (pair _ _) _) _), _, h, _, _ => by simp [arguments?] at h
  | pair (atom _) (pair (pair (atom _) _) (atom _)), _, h, _, _ => by simp [arguments?] at h
  | pair (atom _) (pair (pair (atom _) _) (pair _ (pair _ _))), _, h, _, _ => by
    simp [arguments?] at h

/-- Bound arguments are smaller than the program that binds them. -/
theorem sizeOf_lt_of_uncurry? {p module : Program} {args : List Program}
    (h : p.uncurry? = some (module, args)) : ∀ a ∈ args, sizeOf a < sizeOf p := by
  intro a ha
  unfold uncurry? at h
  split at h
  · split at h
    · obtain ⟨as, has, he⟩ := Option.map_eq_some_iff.1 h
      obtain ⟨rfl, rfl⟩ := Prod.mk.inj he
      have := sizeOf_lt_of_mem_arguments? has a ha
      simp; omega
    · cases h
  · cases h

end Program

/-- The node of a program, whatever its depth. -/
def recognise (r : Registry) (p : Program) : Node :=
  match r.nameOf? p.merkle with
  | some name => .template name [] false
  | none =>
    match _h : p.uncurry? with
    | none => .raw p.toHex
    | some (module, args) =>
      match r.nameOf? module.merkle with
      | none => .raw p.toHex
      | some name => .template name (args.attach.map fun a => recognise r a.val) true
termination_by sizeOf p
decreasing_by exact Program.sizeOf_lt_of_uncurry? _h a.val a.property

/-- The node of a program. -/
def simplify (r : Registry) (p : Program) : Node :=
  if p.depth ≤ Program.depthLimit then recognise r p else .raw p.toHex

/-- The programs that the node of a program keeps as leaves, whatever its depth. -/
def unrecognised (r : Registry) (p : Program) : List Program :=
  match r.nameOf? p.merkle with
  | some _ => []
  | none =>
    match _h : p.uncurry? with
    | none => [p]
    | some (module, args) =>
      match r.nameOf? module.merkle with
      | none => [p]
      | some _ => args.attach.flatMap fun a => unrecognised r a.val
termination_by sizeOf p
decreasing_by exact Program.sizeOf_lt_of_uncurry? _h a.val a.property

/-- The programs that the node of a program keeps as leaves. -/
def kept (r : Registry) (p : Program) : List Program :=
  if p.depth ≤ Program.depthLimit then unrecognised r p else [p]

/-- Why a text gives no node. -/
inductive PuzzleTextError where
  /-- The text spells no program. -/
  | program (cause : ProgramError)
  /-- The text is no assembly text. -/
  | assembly (cause : AssemblyError)
  /-- A leaf has an atom past the size limit of the codec. -/
  | oversizedAtom
deriving DecidableEq

/-- The wording of a refusal. -/
def PuzzleTextError.message : PuzzleTextError → String
  | .program cause => cause.message
  | .assembly cause => "Cannot assemble puzzle: " ++ cause.message
  | .oversizedAtom => "sexp too long"

/-- The program of a text: assembly text if it starts with a bracket, else hexadecimal digits. -/
def Program.ofPuzzleText (text : String) : Except PuzzleTextError Program :=
  let s := Text.trim text.toList
  match s with
  | '(' :: _ => (Assembly.read (String.ofList s)).mapError .assembly
  | s => (Program.ofHex (String.ofList s)).mapError .program

/-- The node of the puzzle that a text gives.  There is none if a leaf cannot be written: assembly
text has atoms of any size. -/
def parsePuzzle (r : Registry) (text : String) : Except PuzzleTextError Node := do
  let p ← Program.ofPuzzleText text
  if (kept r p).all Program.fits then return simplify r p else .error .oversizedAtom

end CoinPuzzles
