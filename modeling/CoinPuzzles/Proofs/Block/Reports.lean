import CoinPuzzles.Block.Generator
import CoinPuzzles.Proofs.Block.Entries
import CoinPuzzles.Proofs.Block.WorkerPool

/-!
# Proofs/Block/Reports — a block is reported entry by entry

The entries of a block are looked into by a pool of workers.  The reports come back in the order of
the entries whoever finishes first (`poolReports_iff`), so a list of spends that was written as the
result of a block is reported spend by spend: `reportEntries_blockResult`.

What comes of an arbitrary text is less than one might wish: `reportEntries_outcome`.  A negative
amount is refused in the words of the coin and not as a malformed result, and a parent of any length
is let through.
-/

namespace CoinPuzzles

open Program (depthLimit)

variable {r : Registry} {workers : Int} {executed : String}

/-! ## From a text to reports -/

/-- The entries that the text of a result lists. -/
def listedEntries (executed : String) : Except BlockError (List Program) := do
  match ← (Program.ofHex executed).mapError .program with
  | .atom _ => .error .notAList
  | .pair entries _ => .ok entries.elements

/-- What may come of a text if a pool of workers looks into its entries. -/
def PoolReports (r : Registry) (workers : Int) (executed : String)
    (outcome : Except BlockError (List CoinInfo)) : Prop :=
  match listedEntries executed with
  | .error e => outcome = .error e
  | .ok entries =>
    if entries = [] then outcome = .ok []
    else if workers ≤ 0 then outcome = .error .noWorkers
    else Pool.Yields (CoinInfo.ofEntry r) workers.toNat entries outcome

/-- **The report as a function of its entries**: none are reported for an empty list, and then it
does not matter whether there are workers. -/
theorem reportEntries_eq (r : Registry) (workers : Int) (executed : String) :
    reportEntries r workers executed = (do
      let entries ← listedEntries executed
      if entries = [] then return []
      else if workers ≤ 0 then .error .noWorkers
      else entries.mapM (CoinInfo.ofEntry r)) := by
  rw [reportEntries, listedEntries]
  cases (Program.ofHex executed).mapError BlockError.program with
  | error e => rfl
  | ok p =>
    cases p with
    | atom b => rfl
    | pair entries rest => simp [bind, Except.bind]

/-- **The reports do not depend on who finishes first.** -/
theorem poolReports_iff {outcome : Except BlockError (List CoinInfo)} :
    PoolReports r workers executed outcome ↔ outcome = reportEntries r workers executed := by
  rw [PoolReports, reportEntries_eq]
  cases listedEntries executed with
  | error e => rfl
  | ok entries =>
    change _ ↔ outcome = if entries = [] then _ else _
    dsimp only
    split_ifs with hempty hworkers
    · rfl
    · rfl
    · exact Pool.yields_iff (by omega)

/-- With a worker at hand, every entry that is listed is reported. -/
theorem reportEntries_of_workers (r : Registry) (hworkers : 1 ≤ workers) (executed : String) :
    reportEntries r workers executed =
      listedEntries executed >>= fun entries => entries.mapM (CoinInfo.ofEntry r) := by
  have hnot : ¬ workers ≤ 0 := by omega
  rw [reportEntries_eq]
  refine congrArg (listedEntries executed >>= ·) (funext fun entries => ?_)
  split_ifs with hempty
  · rw [hempty]
    rfl
  · rfl

theorem listedEntries_toHex {entries : List Program}
    (hfits : (Program.ofList [.ofList entries]).fits = true) :
    listedEntries (Program.ofList [.ofList entries]).toHex = .ok entries := by
  rw [listedEntries, Program.ofHex_toHex (Program.fits_iff.1 hfits)]
  exact congrArg Except.ok (Program.elements_ofList entries)

/-! ## A list of spends -/

/-- The result of a block that lists these spends. -/
def blockResult (entries : List BlockEntry) : Program :=
  .ofList [.ofList (entries.map BlockEntry.toProgram)]

/-- **A block is reported spend by spend.**  If the result of a block can be written and its puzzles
are within the depth limit, then every run of any number of workers ends with the same reports: one
for each spend, in the order of the spends. -/
theorem reportEntries_blockResult (r : Registry) (entries : List BlockEntry)
    (hworkers : 1 ≤ workers) (hdepth : ∀ e ∈ entries, e.puzzle.depth ≤ depthLimit)
    (hfits : (blockResult entries).fits = true) :
    ∃ infos, reportEntries r workers (blockResult entries).toHex = .ok infos ∧
      (∀ outcome, PoolReports r workers (blockResult entries).toHex outcome ↔
        outcome = .ok infos) ∧
      List.Forall₂ (BlockEntry.ReportedAs r) entries infos := by
  have hall : reportEntries r workers (blockResult entries).toHex =
      .ok (entries.map (BlockEntry.report r)) := by
    rw [reportEntries_of_workers r hworkers, blockResult, listedEntries_toHex hfits]
    refine Outcome.mapM_eq_ok_iff.2 ?_
    rw [List.forall₂_map_left_iff, List.forall₂_map_right_iff, List.forall₂_same]
    exact fun e he => BlockEntry.ofEntry_toProgram r (hdepth e he)
  refine ⟨_, hall, fun outcome => by rw [poolReports_iff, hall], ?_⟩
  rw [List.forall₂_map_right_iff, List.forall₂_same]
  intro e he
  rw [blockResult, Program.fits_ofList, List.forall_mem_singleton, Program.fits_ofList,
    List.forall_mem_map] at hfits
  exact BlockEntry.reportedAs_report r (hdepth e he) (hfits e he)

/-- A coin of no worth and a spend whose parent is no id, both with a registered puzzle. -/
def sampleEntries : List BlockEntry :=
  [⟨List.replicate 32 1, boundSeven, 0, .nil⟩, ⟨[1, 2, 3], boundSeven, 128, .atom [5]⟩]

/-- The sample, reported by three workers. -/
theorem reportEntries_blockResult_sampleEntries :
    (∀ e ∈ sampleEntries, e.puzzle.depth ≤ depthLimit) ∧
      (blockResult sampleEntries).fits = true ∧
      ∃ a b, reportEntries sevenRegistry 3 (blockResult sampleEntries).toHex = .ok [a, b] ∧
        a.node.rebuild sevenRegistry = .ok boundSeven ∧ a.amount = 0 ∧
        b.node.rebuild sevenRegistry = .ok boundSeven ∧ b.amount = 128 := by
  have hdepth : ∀ e ∈ sampleEntries, e.puzzle.depth ≤ depthLimit := by decide
  have hfits : (blockResult sampleEntries).fits = true := by decide +kernel
  obtain ⟨infos, hall, -, hreported⟩ :=
    reportEntries_blockResult sevenRegistry sampleEntries (by decide : (1 : Int) ≤ 3) hdepth hfits
  obtain ⟨a, _, ha, hrest, rfl⟩ := List.forall₂_cons_left_iff.1 hreported
  obtain ⟨b, _, hb, hend, rfl⟩ := List.forall₂_cons_left_iff.1 hrest
  obtain rfl := List.forall₂_nil_left_iff.1 hend
  exact ⟨hdepth, hfits, a, b, hall, ha.rebuild_eq collisionFree_boundSeven, ha.amount_eq,
    hb.rebuild_eq collisionFree_boundSeven, hb.amount_eq⟩

/-! ## What comes of any text -/

/-- The refusal says that the result is malformed. -/
def BlockError.isDecodeError : BlockError → Bool
  | .coin _ => false
  | .noWorkers => false
  | _ => true

/-- The outcome that one would promise: a refusal of a malformed result, or reports on coins. -/
def ProperOutcome : Except BlockError (List CoinInfo) → Prop
  | .error e => e.isDecodeError = true
  | .ok infos => ∀ info ∈ infos, info.DenotesCoin

/-- The text lists an entry of this parent and this amount. -/
def Lists (executed : String) (parent : Bytes) (amount : Int) : Prop :=
  ∃ entries entry puzzle bytes solution, listedEntries executed = .ok entries ∧
    entry ∈ entries ∧ entry.IsEntry parent puzzle bytes solution ∧ bytes.toInt = amount

/-- All that can be wrong before the first entry is a matter of decoding. -/
theorem isDecodeError_of_listedEntries {e : BlockError} (h : listedEntries executed = .error e) :
    e.isDecodeError = true := by
  rw [listedEntries] at h
  cases hread : Program.ofHex executed with
  | error cause =>
    rw [hread] at h
    obtain rfl := Except.error.inj h
    rfl
  | ok p =>
    rw [hread] at h
    cases p with
    | atom b =>
      obtain rfl := Except.error.inj h
      rfl
    | pair entries rest => cases h

/-- **An entry fails to decode, or has a negative amount**, which is no matter of decoding. -/
theorem refusal_of_ofEntry {entry : Program} {e : BlockError}
    (h : CoinInfo.ofEntry r entry = .error e) :
    e.isDecodeError = true ∨ ∃ parent puzzle amount solution,
      entry.IsEntry parent puzzle amount solution ∧ amount.toInt < 0 ∧
        e = .coin (.negativeAmount amount.toInt) := by
  rcases CoinInfo.ofEntry_eq_error_iff.1 h with ⟨-, rfl⟩ | ⟨parent, puzzle, amount, solution,
    hentry, ⟨-, rfl⟩ | ⟨-, hamount, rfl⟩⟩
  · split_ifs <;> exact .inl rfl
  · exact .inl rfl
  · exact .inr ⟨parent, puzzle, amount, solution, hentry, hamount, rfl⟩

/-- **A report fails to decode, or at a negative amount that is listed.** -/
theorem error_of_reportEntries (hworkers : 1 ≤ workers) {e : BlockError}
    (h : reportEntries r workers executed = .error e) :
    e.isDecodeError = true ∨ ∃ parent amount, Lists executed parent amount ∧ amount < 0 ∧
      e = .coin (.negativeAmount amount) := by
  rw [reportEntries_of_workers r hworkers] at h
  rcases Outcome.bind_eq_error_iff.1 h with h | ⟨entries, hlisted, h⟩
  · exact .inl (isDecodeError_of_listedEntries h)
  · obtain ⟨before, entry, rest, rfl, -, hentry⟩ := Outcome.mapM_eq_error_iff.1 h
    have hmem : entry ∈ before ++ entry :: rest := List.mem_append_right _ List.mem_cons_self
    refine (refusal_of_ofEntry hentry).imp_right ?_
    rintro ⟨parent, puzzle, amount, solution, hparts, hamount, rfl⟩
    exact ⟨parent, _, ⟨_, _, _, _, _, hlisted, hmem, hparts, rfl⟩, hamount, rfl⟩

/-- **What is reported is listed**, and denotes a coin exactly if its parent has 32 bytes. -/
theorem lists_of_reportEntries (hworkers : 1 ≤ workers) {infos : List CoinInfo} {info : CoinInfo}
    (h : reportEntries r workers executed = .ok infos) (hinfo : info ∈ infos) :
    Lists executed info.parent info.amount ∧ (info.DenotesCoin ↔ info.parent.length = 32) := by
  rw [reportEntries_of_workers r hworkers] at h
  obtain ⟨entries, hlisted, h⟩ := Outcome.bind_eq_ok_iff.1 h
  obtain ⟨entry, hmem, hentry⟩ := Outcome.exists_of_mem_mapM h hinfo
  refine ⟨?_, CoinInfo.denotesCoin_iff hentry⟩
  obtain ⟨parent, puzzle, amount, solution, hparts, -, hamount, rfl⟩ :=
    CoinInfo.ofEntry_eq_ok_iff.1 hentry
  exact ⟨_, _, _, _, _, hlisted, hmem, hparts, (Int.toNat_of_nonneg hamount).symm⟩

/-- **What comes of a text.**  It is refused as malformed, or for a negative amount that it lists;
or every report is on an entry that it lists, and on a coin exactly if the parent has 32 bytes.  So
the outcome is the one that one would promise if the text lists no other parents and no negative
amounts. -/
theorem reportEntries_outcome (r : Registry) (hworkers : 1 ≤ workers) (executed : String) :
    (∀ e, reportEntries r workers executed = .error e → e.isDecodeError = true ∨
      ∃ parent amount, Lists executed parent amount ∧ amount < 0 ∧
        e = .coin (.negativeAmount amount)) ∧
    (∀ infos, reportEntries r workers executed = .ok infos → ∀ info ∈ infos,
      Lists executed info.parent info.amount ∧
        (info.DenotesCoin ↔ info.parent.length = 32)) ∧
    ((∀ parent amount, Lists executed parent amount → parent.length = 32 ∧ 0 ≤ amount) →
      ProperOutcome (reportEntries r workers executed)) := by
  refine ⟨fun e => error_of_reportEntries hworkers,
    fun infos h info => lists_of_reportEntries hworkers h, fun hlisted => ?_⟩
  cases h : reportEntries r workers executed with
  | error e =>
    rcases error_of_reportEntries hworkers h with hdecode | ⟨parent, amount, hlists, hamount, -⟩
    · exact hdecode
    · exact absurd (hlisted parent amount hlists).2 (Int.not_le.2 hamount)
  | ok infos =>
    intro info hinfo
    obtain ⟨hlists, hcoin⟩ := lists_of_reportEntries hworkers h hinfo
    exact hcoin.2 (hlisted _ _ hlists).1

/-- The result of a block that lists one spend, of any parent and amount. -/
def singleResult (parent amount : Bytes) : Program :=
  .ofList [.ofList [.ofList [.atom parent, .nil, .atom amount, .nil]]]

theorem reportEntries_singleResult {parent amount : Bytes} (r : Registry)
    (hworkers : 1 ≤ workers) (hfits : (singleResult parent amount).fits = true) :
    reportEntries r workers (singleResult parent amount).toHex =
      if amount.toInt < 0 then .error (.coin (.negativeAmount amount.toInt))
      else .ok [.ofParts r parent .nil amount.toInt.toNat .nil] := by
  have hentry : (Program.ofList [.atom parent, .nil, .atom amount, .nil]).IsEntry parent .nil
      amount .nil :=
    ⟨[], Program.elements_ofList _⟩
  have hdepth : ¬ depthLimit < Program.nil.depth := by decide
  rw [reportEntries_of_workers r hworkers, singleResult, listedEntries_toHex hfits]
  change List.mapM _ _ = _
  rw [List.mapM_cons, List.mapM_nil, CoinInfo.ofEntry_isEntry hentry, if_neg hdepth]
  split_ifs <;> rfl

/-- A coin of 128 in a block of its own. -/
theorem reportEntries_outcome_singleResult :
    ∃ info, reportEntries sevenRegistry 1
        (singleResult (List.replicate 32 1) [0, 128]).toHex = .ok [info] ∧
      info.amount = 128 ∧ info.DenotesCoin := by
  have hworkers : (1 : Int) ≤ 1 := le_refl 1
  have hfits : (singleResult (List.replicate 32 1) [0, 128]).fits = true := by decide +kernel
  have hall := reportEntries_singleResult sevenRegistry hworkers hfits
  rw [if_neg (by decide)] at hall
  obtain ⟨-, hreports, -⟩ := reportEntries_outcome sevenRegistry hworkers
    (singleResult (List.replicate 32 1) [0, 128]).toHex
  obtain ⟨-, hcoin⟩ := hreports _ hall _ (List.mem_singleton_self _)
  exact ⟨_, hall, rfl, hcoin.2 List.length_replicate⟩

/-- A spend of minus one is refused, but not as malformed; a spend whose parent has three bytes is
reported, but is on no coin. -/
theorem not_properOutcome_singleResult :
    ¬ ProperOutcome (reportEntries sevenRegistry 1
        (singleResult (List.replicate 32 1) [255]).toHex) ∧
      ¬ ProperOutcome (reportEntries sevenRegistry 1 (singleResult [1, 2, 3] [5]).toHex) := by
  have hworkers : (1 : Int) ≤ 1 := le_refl 1
  constructor
  · rw [reportEntries_singleResult sevenRegistry hworkers (by decide +kernel),
      if_pos (by decide)]
    exact Bool.false_ne_true
  · -- The id is computed of any bytes; only a coin asks for 32 of them.
    rw [reportEntries_singleResult sevenRegistry hworkers (by decide +kernel),
      if_neg (by decide)]
    intro h
    obtain ⟨_, c, -, hc, -⟩ := h _ (List.mem_singleton_self _)
    have hlength := (Coin.exists_of?_iff.1 ⟨c, hc⟩).1
    cases hlength

end CoinPuzzles
