import CoinPuzzles.Proofs.Program.AssemblyLevels
import CoinPuzzles.Proofs.Puzzle.Leaves

/-!
# Proofs/Puzzle/PuzzleText — a puzzle given as assembly text or as digits

Both forms of a program come to the same node, as long as the assembly text does not take too many
levels: `parsePuzzle_written`.  A text that does is refused otherwise than malformed puzzles are,
and unless a text is huge there is no other way to such a refusal: `parsePuzzle_outcome`.  There the
two forms part, since digits past the depth limit are kept as one leaf (`parsePuzzle_toHex_deep`).
-/

namespace CoinPuzzles

open Assembly (IsGap SpellsBytes Writes nestingLimit)
open Program (depthLimit sizeLimit)

variable {r : Registry}

/-! ## The two forms of a text -/

/-- The text counts as assembly text: it starts with a bracket, blanks not counted. -/
def IsAssembly (text : String) : Prop := (Text.trim text.toList).head? = some '('

/-- The text without the blanks around it. -/
def trimmed (text : String) : String := String.ofList (Text.trim text.toList)

/-- Behind a bracket the text is read as assembly text, without the blanks around it. -/
theorem ofPuzzleText_of_isAssembly {text : String} (h : IsAssembly text) :
    Program.ofPuzzleText text = (Assembly.read (trimmed text)).mapError .assembly := by
  obtain ⟨s, hs⟩ := List.head?_eq_some_iff.1 h
  rw [Program.ofPuzzleText, trimmed, hs]
  rfl

theorem ofPuzzleText_of_not_isAssembly {text : String} (h : ¬ IsAssembly text) :
    Program.ofPuzzleText text = (Program.ofHex (trimmed text)).mapError .program := by
  rw [Program.ofPuzzleText, trimmed]
  split
  · next s hs => exact absurd (by rw [IsAssembly, hs]; rfl) h
  · rfl

/-- The reader of digits drops the blanks around them itself, so trimming first changes nothing. -/
theorem ofHex_trimmed_eq_ok_iff {text : String} {p : Program} :
    Program.ofHex (trimmed text) = .ok p ↔ Program.ofHex text = .ok p := by
  have hbytes : Bytes.ofHex? (trimmed text) = Bytes.ofHex? text := by
    rw [Bytes.ofHex?, Bytes.ofHex?, trimmed, String.toList_ofList, Text.trim_trim]
  rw [Program.ofHex, Program.ofHex, Bytes.ofHex, Bytes.ofHex, hbytes]
  cases Bytes.ofHex? text <;> simp

/-- No digits start with a bracket. -/
theorem not_isAssembly_of_ofHex {text : String} {p : Program} (h : Program.ofHex text = .ok p) :
    ¬ IsAssembly text := by
  intro hassembly
  obtain ⟨s, hs⟩ := List.head?_eq_some_iff.1 hassembly
  have hnone : Bytes.ofHex? text = none := by
    rw [Bytes.ofHex?, hs]
    cases s <;> rfl
  rw [Program.ofHex, Bytes.ofHex, hnone] at h
  cases h

/-- **Digits of a program are read as that program.** -/
theorem ofPuzzleText_of_ofHex {text : String} {p : Program} (h : Program.ofHex text = .ok p) :
    Program.ofPuzzleText text = .ok p := by
  rw [ofPuzzleText_of_not_isAssembly (not_isAssembly_of_ofHex h), ofHex_trimmed_eq_ok_iff.2 h]
  rfl

/-- Trimming takes the gaps off a written pair, which begins and ends with a bracket, and nothing
more. -/
theorem trim_written {s lead trail : List Char} {p : Program} (hs : Writes s p)
    (hp : p.isPair = true) (hlead : IsGap lead) (htrail : IsGap trail) :
    Text.trim (String.ofList (lead ++ (s ++ trail))).toList = s := by
  obtain ⟨inner, rfl⟩ := hs.exists_inner hp
  rw [String.toList_ofList]
  refine Text.trim_append hlead htrail (List.cons_ne_nil _ _) (by rw [List.head_cons]; decide) ?_
  rw [List.getLast_cons (List.concat_ne_nil _ _), List.getLast_concat]
  decide

/-- A written pair counts as assembly text, whatever gap stands in front of it. -/
theorem isAssembly_written {s lead trail : List Char} {p : Program} (hs : Writes s p)
    (hp : p.isPair = true) (hlead : IsGap lead) (htrail : IsGap trail) :
    IsAssembly (String.ofList (lead ++ (s ++ trail))) := by
  rw [IsAssembly, trim_written hs hp hlead htrail]
  obtain ⟨inner, rfl⟩ := hs.exists_inner hp
  rfl

/-- **A written pair is read back exactly if it takes no more levels than there are**, and else it
is too nested. -/
theorem ofPuzzleText_written {s lead trail : List Char} {p : Program} (hs : Writes s p)
    (hp : p.isPair = true) (hlead : IsGap lead) (htrail : IsGap trail) :
    Program.ofPuzzleText (String.ofList (lead ++ (s ++ trail))) =
      if p.levels ≤ nestingLimit then .ok p else .error (.assembly .tooNested) := by
  have hnone : IsGap [] := by decide
  have hread := hs.readWithin_eq hnone hnone nestingLimit
  rw [List.nil_append, List.append_nil] at hread
  rw [ofPuzzleText_of_isAssembly (isAssembly_written hs hp hlead htrail),
    trimmed, trim_written hs hp hlead htrail, Assembly.read, hread]
  by_cases hlevels : p.levels ≤ nestingLimit
  · rw [if_pos hlevels, if_pos hlevels]
    rfl
  · rw [if_neg hlevels, if_neg hlevels]
    rfl

/-! ## The node of a text -/

/-- Once a program is read, only leaves that are kept as digits and are too large to write stand in
the way. -/
theorem parsePuzzle_eq {text : String} {p : Program} (h : Program.ofPuzzleText text = .ok p) :
    parsePuzzle r text =
      if (kept r p).all Program.fits then .ok (simplify r p) else .error .oversizedAtom := by
  rw [parsePuzzle, h]
  rfl

theorem parsePuzzle_of_fits {text : String} {p : Program} (h : Program.ofPuzzleText text = .ok p)
    (hp : p.fits = true) : parsePuzzle r text = .ok (simplify r p) := by
  rw [parsePuzzle_eq h, if_pos (List.all_eq_true.2 fun _ => fits_of_mem_kept hp)]

/-- **A program given in digits is simplified**, however deep it is. -/
theorem parsePuzzle_toHex (r : Registry) {p : Program} (hp : p.fits = true) :
    parsePuzzle r p.toHex = .ok (simplify r p) :=
  parsePuzzle_of_fits (ofPuzzleText_of_ofHex (Program.ofHex_toHex (Program.fits_iff.1 hp))) hp

theorem parsePuzzle_of_error {text : String} {e : PuzzleTextError}
    (h : Program.ofPuzzleText text = .error e) : parsePuzzle r text = .error e := by
  rw [parsePuzzle, h]
  rfl

/-- **A program given as assembly text is simplified** if it takes no more levels than there are. -/
theorem parsePuzzle_of_writes (r : Registry) {p : Program} {s lead trail : List Char}
    (hs : Writes s p) (hp : p.isPair = true) (hfits : p.fits = true) (hlead : IsGap lead)
    (htrail : IsGap trail) :
    parsePuzzle r (String.ofList (lead ++ (s ++ trail))) =
      if p.levels ≤ nestingLimit then .ok (simplify r p) else .error (.assembly .tooNested) := by
  have htext := ofPuzzleText_written hs hp hlead htrail
  by_cases hlevels : p.levels ≤ nestingLimit
  · rw [if_pos hlevels] at htext ⊢
    exact parsePuzzle_of_fits htext hfits
  · rw [if_neg hlevels] at htext ⊢
    exact parsePuzzle_of_error htext

/-- **Assembly text and digits agree.**  However a pair is written as assembly text, with whatever
blanks around it, the text is refused as too nested if it takes more levels than there are, and
otherwise comes to the node of the pair, as do its digits. -/
theorem parsePuzzle_written (r : Registry) {p : Program} {s lead trail : List Char}
    (hs : Writes s p) (hp : p.isPair = true) (hfits : p.fits = true) (hlead : IsGap lead)
    (htrail : IsGap trail) :
    parsePuzzle r p.toHex = .ok (simplify r p) ∧
      parsePuzzle r (String.ofList (lead ++ (s ++ trail))) =
        if p.levels ≤ nestingLimit then parsePuzzle r p.toHex
        else .error (.assembly .tooNested) := by
  have hhex := parsePuzzle_toHex r hfits
  refine ⟨hhex, ?_⟩
  rw [hhex, parsePuzzle_of_writes r hs hp hfits hlead htrail]

/-- A text with an odd number of digits, and blanks of several kinds. -/
theorem parsePuzzle_written_spaced :
    parsePuzzle sevenRegistry "\t( 0x7\n.  ( )) " =
      .ok (simplify sevenRegistry (.pair (.atom [7]) .nil)) := by
  have hnone : IsGap [] := by decide
  have hblank : IsGap [' '] := by decide
  have hblanks : IsGap [' ', ' '] := by decide
  have hline : IsGap ['\n'] := by decide
  have htab : IsGap ['\t'] := by decide
  have hdigits : SpellsBytes ['7'] [7] := by
    refine ⟨fun hc => ?_, .inr (by decide)⟩
    rw [List.mem_singleton.1 hc]
    decide
  have hseven : Writes ['0', 'x', '7'] (.atom [7]) := .atom (.inl rfl) (by decide) hdigits
  have hpair := hseven.pair (.nil hblank) hblank hline (by decide) hblanks (by decide) hnone
  obtain ⟨hhex, htext⟩ := parsePuzzle_written sevenRegistry hpair rfl (by decide) htab hblank
  rw [if_pos (by decide), hhex] at htext
  exact htext

/-! ## Refusals -/

/-- The refusal is one of those meant for malformed puzzles. -/
def PuzzleTextError.isDecodeError : PuzzleTextError → Bool
  | .program _ => true
  | .assembly cause => cause != .tooNested
  | .oversizedAtom => false

/-- A node, or a refusal meant for malformed puzzles. -/
def ProperNode : Except PuzzleTextError Node → Prop
  | .ok _ => True
  | .error e => e.isDecodeError = true

/-- **Being too nested is a matter of assembly text alone**, and of its brackets. -/
theorem ofPuzzleText_eq_tooNested_iff {text : String} :
    Program.ofPuzzleText text = .error (.assembly .tooNested) ↔
      IsAssembly text ∧ nestingLimit < Assembly.levels (trimmed text) := by
  rw [← Assembly.readWithin_eq_tooNested_iff]
  by_cases h : IsAssembly text
  · rw [and_iff_right h, ofPuzzleText_of_isAssembly h, Assembly.read]
    cases Assembly.readWithin nestingLimit (trimmed text) <;> simp [Except.mapError]
  · rw [ofPuzzleText_of_not_isAssembly h]
    cases Program.ofHex (trimmed text) <;> simp [Except.mapError, h]

/-- A text that spells no program is refused as malformed, unless it is too nested. -/
theorem isDecodeError_of_ofPuzzleText {text : String} {e : PuzzleTextError}
    (h : Program.ofPuzzleText text = .error e) :
    e.isDecodeError = true ↔ e ≠ .assembly .tooNested := by
  cases e with
  | program cause => simp [PuzzleTextError.isDecodeError]
  | assembly cause => simp [PuzzleTextError.isDecodeError]
  | oversizedAtom =>
    by_cases hassembly : IsAssembly text
    · rw [ofPuzzleText_of_isAssembly hassembly] at h
      cases hread : Assembly.read (trimmed text) <;> simp [hread, Except.mapError] at h
    · rw [ofPuzzleText_of_not_isAssembly hassembly] at h
      cases hread : Program.ofHex (trimmed text) <;> simp [hread, Except.mapError] at h

/-- What digits spell can be written. -/
theorem fits_of_ofPuzzleText {text : String} {p : Program} (hassembly : ¬ IsAssembly text)
    (h : Program.ofPuzzleText text = .ok p) : p.fits = true := by
  rw [ofPuzzleText_of_not_isAssembly hassembly, Outcome.mapError_eq_ok_iff] at h
  exact Program.fits_of_ofHex h

/-- **What comes of a text is proper unless it is assembly text** that is too nested, or of a
program with leaves that cannot be written. -/
theorem properNode_iff {text : String} :
    ProperNode (parsePuzzle r text) ↔
      (IsAssembly text → Assembly.levels (trimmed text) ≤ nestingLimit ∧
        ∀ p, Program.ofPuzzleText text = .ok p → ∀ q ∈ kept r p, q.fits = true) := by
  have hnested : Program.ofPuzzleText text = .error (.assembly .tooNested) ↔ _ :=
    ofPuzzleText_eq_tooNested_iff
  cases h : Program.ofPuzzleText text with
  | error e =>
    rw [parsePuzzle_of_error h, ProperNode, isDecodeError_of_ofPuzzleText h]
    rw [h, Except.error.injEq] at hnested
    rw [ne_eq, hnested, not_and, not_lt]
    exact imp_congr_right fun _ => (and_iff_left fun _ hp => nomatch hp).symm
  | ok p =>
    rw [h] at hnested
    have hlevels : IsAssembly text → Assembly.levels (trimmed text) ≤ nestingLimit := fun ha =>
      not_lt.1 fun hlt => Outcome.ok_ne_error (hnested.2 ⟨ha, hlt⟩)
    have hkept : ProperNode (parsePuzzle r text) ↔ ∀ q ∈ kept r p, q.fits = true := by
      rw [parsePuzzle_eq h, ← List.all_eq_true]
      cases (kept r p).all Program.fits <;> simp [ProperNode, PuzzleTextError.isDecodeError]
    rw [hkept]
    constructor
    · intro hfits ha
      refine ⟨hlevels ha, fun p' hp' => ?_⟩
      obtain rfl := Except.ok.inj hp'
      exact hfits
    · intro hproper
      by_cases ha : IsAssembly text
      · exact (hproper ha).2 p rfl
      · exact fun q => fits_of_mem_kept (fits_of_ofPuzzleText ha h)

/-- **A text that is not huge comes to something proper unless it is too nested.** -/
theorem properNode_iff_of_length {text : String} (h : 4 * (trimmed text).length < sizeLimit) :
    ProperNode (parsePuzzle r text) ↔
      (IsAssembly text → Assembly.levels (trimmed text) ≤ nestingLimit) := by
  rw [properNode_iff]
  refine imp_congr_right fun hassembly => and_iff_left fun p hp q => fits_of_mem_kept ?_
  rw [ofPuzzleText_of_isAssembly hassembly, Outcome.mapError_eq_ok_iff] at hp
  exact (Assembly.atomsWithin_of_readWithin hp).fits h

theorem isPair_of_depthLimit_lt {p : Program} (h : depthLimit < p.depth) : p.isPair = true := by
  cases p with
  | atom b => exact absurd h (Nat.not_lt_zero _)
  | pair => rfl

/-- What is past the depth limit takes more levels than there are. -/
theorem nestingLimit_lt_levels {p : Program} (h : depthLimit < p.depth) :
    nestingLimit < p.levels := by
  have hlt := p.two_mul_depth_lt_levels
  rw [depthLimit] at h
  rw [nestingLimit]
  omega

/-- Past the depth limit the digits are kept as one leaf. -/
theorem parsePuzzle_toHex_deep (r : Registry) {p : Program} (hfits : p.fits = true)
    (hdepth : depthLimit < p.depth) : parsePuzzle r p.toHex = .ok (.raw p.toHex) := by
  rw [parsePuzzle_toHex r hfits, simplify, if_neg (not_le.2 hdepth)]

/-- **Past the depth limit no assembly text is read.** -/
theorem parsePuzzle_writes_deep (r : Registry) {p : Program} {s lead trail : List Char}
    (hs : Writes s p) (hfits : p.fits = true) (hdepth : depthLimit < p.depth) (hlead : IsGap lead)
    (htrail : IsGap trail) :
    parsePuzzle r (String.ofList (lead ++ (s ++ trail))) = .error (.assembly .tooNested) := by
  rw [parsePuzzle_of_writes r hs (isPair_of_depthLimit_lt hdepth) hfits hlead htrail,
    if_neg (not_le.2 (nestingLimit_lt_levels hdepth))]

/-- **What may come of a text.**  It is a node or a refusal meant for malformed puzzles, unless the
text is assembly text that is too nested or of a program with leaves that cannot be written.  Only a
huge text has such leaves, and a short one is never too nested.  A puzzle past the depth limit is
one leaf if given in digits, but however it is written as assembly text it is too nested, and that
refusal is not a proper one. -/
theorem parsePuzzle_outcome (r : Registry) :
    (∀ text, ProperNode (parsePuzzle r text) ↔
      (IsAssembly text → Assembly.levels (trimmed text) ≤ nestingLimit ∧
        ∀ p, Program.ofPuzzleText text = .ok p → ∀ q ∈ kept r p, q.fits = true)) ∧
    (∀ text, 4 * (trimmed text).length < sizeLimit →
      (ProperNode (parsePuzzle r text) ↔
        (IsAssembly text → Assembly.levels (trimmed text) ≤ nestingLimit))) ∧
    (∀ text, 2 * (trimmed text).length ≤ nestingLimit → ProperNode (parsePuzzle r text)) ∧
    ∀ p : Program, p.fits = true → depthLimit < p.depth →
      parsePuzzle r p.toHex = .ok (.raw p.toHex) ∧
      ∀ s lead trail, Writes s p → IsGap lead → IsGap trail →
        parsePuzzle r (String.ofList (lead ++ (s ++ trail))) = .error (.assembly .tooNested) := by
  refine ⟨fun text => properNode_iff, fun text => properNode_iff_of_length, fun text hshort => ?_,
    fun p hfits hdepth => ?_⟩
  · have hlength : 4 * (trimmed text).length < sizeLimit := by
      rw [nestingLimit] at hshort
      rw [sizeLimit]
      omega
    rw [properNode_iff_of_length hlength]
    exact fun _ => (Assembly.levels_le (trimmed text)).trans hshort
  · refine ⟨parsePuzzle_toHex_deep r hfits hdepth, fun s lead trail hs hlead htrail => ?_⟩
    exact parsePuzzle_writes_deep r hs hfits hdepth hlead htrail

/-- Pairs nested in the left halves of each other, with empty right halves. -/
def tower : Nat → Program
  | 0 => .nil
  | n + 1 => .pair (tower n) .nil

/-- A tower is as deep as it has pairs, since only its left halves go down. -/
theorem depth_tower : ∀ n, (tower n).depth = n
  | 0 => rfl
  | n + 1 => by
    rw [tower, Program.depth, depth_tower n]
    exact congrArg (· + 1) (Nat.max_zero n)

theorem depthLimit_lt_depth_tower : depthLimit < (tower 3000).depth := by
  rw [depth_tower]
  decide

theorem fits_tower : ∀ n, (tower n).fits = true
  | 0 => Program.fits_nil
  | n + 1 => Program.fits_pair.2 ⟨fits_tower n, Program.fits_nil⟩

/-- A tower past the depth limit, and a short text whose brackets are not closed. -/
theorem parsePuzzle_outcome_tower :
    ((tower 3000).fits = true ∧ depthLimit < (tower 3000).depth ∧
      parsePuzzle sevenRegistry (tower 3000).toHex = .ok (.raw (tower 3000).toHex)) ∧
    2 * (trimmed "((").length ≤ nestingLimit ∧ ProperNode (parsePuzzle sevenRegistry "((") := by
  obtain ⟨-, -, hshort, hdeep⟩ := parsePuzzle_outcome sevenRegistry
  have hfits := fits_tower 3000
  refine ⟨⟨hfits, depthLimit_lt_depth_tower, (hdeep _ hfits depthLimit_lt_depth_tower).1⟩, ?_⟩
  exact ⟨by decide, hshort "((" (by decide)⟩

/-- **The two forms of a tower part ways.**  The digits are one leaf; the assembly text is refused,
and not as a malformed puzzle. -/
theorem not_properNode_tower :
    parsePuzzle sevenRegistry (tower 3000).toHex = .ok (.raw (tower 3000).toHex) ∧
      ¬ ProperNode (parsePuzzle sevenRegistry (String.ofList (tower 3000).assemblyText)) := by
  have hnone : IsGap [] := by decide
  have htext := parsePuzzle_writes_deep sevenRegistry (Program.writes_assemblyText (tower 3000))
    (fits_tower 3000) depthLimit_lt_depth_tower hnone hnone
  rw [List.nil_append, List.append_nil] at htext
  refine ⟨parsePuzzle_toHex_deep sevenRegistry (fits_tower 3000) depthLimit_lt_depth_tower, ?_⟩
  rw [htext]
  exact Bool.false_ne_true

end CoinPuzzles
