import CoinPuzzles.Block.Generator
import CoinPuzzles.Proofs.Program.Encoding
import CoinPuzzles.Proofs.Template.Registered

/-!
# Proofs/Block/References — a generator that refers back to other generators

The registered module is asked once, and what it gets says which generator it is to run and what
bytes that refers to, in order: the lists around them are closed, so nothing of one reference can
pass for a part of another (`referenceEnvironment_inj`).  Main statement: `runGenerator_references`.
-/

namespace CoinPuzzles

open Program (sizeLimit)

variable {r : Registry} {generator : String} {references : List String}

/-! ## Environments -/

theorem referenceEnvironment_inj {p q : Program} {bs cs : List Bytes} :
    referenceEnvironment p bs = referenceEnvironment q cs ↔ p = q ∧ bs = cs := by
  constructor
  · intro h
    obtain ⟨hp, hlist⟩ := List.cons_eq_cons.1 (Program.ofList_inj.1 h)
    have hatoms := Program.ofList_inj.1 (List.cons.inj
      (Program.ofList_inj.1 (List.cons.inj hlist).1)).1
    exact ⟨hp, List.map_injective_iff.2 (fun _ _ => Program.atom.inj) hatoms⟩
  · rintro ⟨rfl, rfl⟩
    rfl

/-- An environment can be written if the generator and the references can. -/
theorem fits_referenceEnvironment {p : Program} {bs : List Bytes} :
    (referenceEnvironment p bs).fits = true ↔
      p.fits = true ∧ ∀ b ∈ bs, b.length < sizeLimit := by
  simp [referenceEnvironment]

/-! ## Calls -/

/-- The texts of a generator and of its references are read as a program and byte strings. -/
structure Reads (generator : String) (references : List String) (p : Program)
    (bs : List Bytes) : Prop where
  ofHex_generator : Program.ofHex generator = .ok p
  forall₂_ofHex : List.Forall₂ (fun text b => Bytes.ofHex text = .ok b) references bs

/-- Only the registered module is asked for a generator with references. -/
theorem exists_module_of_generatorCall (hne : references ≠ []) {call : Call}
    (hcall : generatorCall r generator references = .ok call) :
    ∃ m, r.get Template.generator = .ok m := by
  rw [generatorCall, if_neg (by simpa using hne)] at hcall
  obtain ⟨bs, -, hcall⟩ := Outcome.bind_eq_ok_iff.1 hcall
  obtain ⟨p, -, hcall⟩ := Outcome.bind_eq_ok_iff.1 hcall
  obtain ⟨m, hm, -⟩ := Outcome.bind_eq_ok_iff.1 hcall
  exact ⟨m, Outcome.mapError_eq_ok_iff.1 hm⟩

/-- What is asked for a generator with references. -/
theorem generatorCall_of_reads {m : Template} (hmodule : r.get Template.generator = .ok m)
    {p : Program} {bs : List Bytes} (h : Reads generator references p bs) (hne : references ≠ []) :
    generatorCall r generator references =
      if m.program.fits = true ∧ ∀ b ∈ bs, b.length < sizeLimit then
        .ok ⟨m.program.toHex, (referenceEnvironment p bs).toHex⟩
      else .error .oversizedAtom := by
  have hreferences : references.mapM (fun text =>
      (Bytes.ofHex text).mapError GeneratorError.reference) = .ok bs := by
    rw [Outcome.mapM_eq_ok_iff]
    exact h.forall₂_ofHex.imp fun _ _ => Outcome.mapError_eq_ok_iff.2
  have hprogram : (Program.ofHex generator).mapError GeneratorError.program = .ok p :=
    Outcome.mapError_eq_ok_iff.2 h.ofHex_generator
  have hregistry : (r.get Template.generator).mapError GeneratorError.registry = .ok m :=
    Outcome.mapError_eq_ok_iff.2 hmodule
  have hfits : (m.program.fits && (referenceEnvironment p bs).fits) = true ↔
      m.program.fits = true ∧ ∀ b ∈ bs, b.length < sizeLimit := by
    rw [Bool.and_eq_true, fits_referenceEnvironment,
      and_iff_right (Program.fits_of_ofHex h.ofHex_generator)]
  rw [generatorCall, if_neg (by simpa using hne), hreferences]
  change (Except.mapError _ _ >>= _) = _
  rw [hprogram]
  change (Except.mapError _ _ >>= _) = _
  rw [hregistry]
  change (if (m.program.fits && (referenceEnvironment p bs).fits) = true then _ else _) = _
  by_cases hall : m.program.fits = true ∧ ∀ b ∈ bs, b.length < sizeLimit
  · rw [if_pos hall, if_pos (hfits.2 hall)]
    rfl
  · rw [if_neg hall, if_neg (mt hfits.1 hall)]

/-- **A generator is run with one call, or refused with none.** -/
theorem runFrom_runGenerator (runner : Runner) (earlier : List Call) :
    (runGenerator r runner generator references).runFrom earlier =
      match generatorCall r generator references with
      | .ok call => ((runner.answer earlier call).mapError .execution, earlier ++ [call])
      | .error e => (.error e, earlier) := by
  rw [runGenerator, Session.runFrom_bind, Session.runFrom_ofExcept]
  cases generatorCall r generator references with
  | error e => rfl
  | ok call =>
    dsimp only
    rw [Session.runFrom_mapError, Runner.runFrom_ask]

/-- Whoever sees a call sees what was to be asked. -/
theorem generatorCall_of_calls {runner : Runner} {earlier : List Call} {call : Call}
    (h : ((runGenerator r runner generator references).runFrom earlier).2 = earlier ++ [call]) :
    generatorCall r generator references = .ok call := by
  rw [runFrom_runGenerator] at h
  split at h
  · next sent hsent =>
    obtain rfl := List.singleton_inj.1 (List.append_cancel_left h)
    exact hsent
  · exact absurd (List.append_right_eq_self.1 h.symm) (List.cons_ne_nil _ _)

/-- **What is asked for a generator with references tells both.** -/
theorem ofHex_environment {p : Program} {bs : List Bytes} (h : Reads generator references p bs)
    (hne : references ≠ []) {call : Call}
    (hcall : generatorCall r generator references = .ok call) :
    Program.ofHex call.environment = .ok (referenceEnvironment p bs) := by
  obtain ⟨m, hmodule⟩ := exists_module_of_generatorCall hne hcall
  rw [generatorCall_of_reads hmodule h hne] at hcall
  split at hcall
  · next hfits =>
    obtain rfl := Except.ok.inj hcall
    have hp := Program.fits_of_ofHex h.ofHex_generator
    exact Program.ofHex_toHex (Program.fits_iff.1 (fits_referenceEnvironment.2 ⟨hp, hfits.2⟩))
  · exact absurd hcall Outcome.error_ne_ok

/-- **References reach the registered module as they are.**  A generator with references is run with
one call, of the registered module; its environment is read as a list of the generator and of a list
that holds nothing but the list of the references.  Only if an atom is past the size limit is there
no call.  Different generators, or different references, are never sent in one environment. -/
theorem runGenerator_references {m : Template} (hmodule : r.get Template.generator = .ok m)
    {p : Program} {bs : List Bytes} (h : Reads generator references p bs) (hne : references ≠ []) :
    (∀ (runner : Runner) (earlier : List Call),
      if m.program.fits = true ∧ ∀ b ∈ bs, b.length < sizeLimit then
        ∃ environment,
          Program.ofHex environment =
            .ok (.ofList [p, .ofList [.ofList (bs.map .atom)]]) ∧
          (runGenerator r runner generator references).runFrom earlier =
            ((runner.answer earlier ⟨m.program.toHex, environment⟩).mapError .execution,
              earlier ++ [⟨m.program.toHex, environment⟩])
      else (runGenerator r runner generator references).runFrom earlier =
        (.error .oversizedAtom, earlier)) ∧
    ∀ (r' : Registry) (generator' : String) (references' : List String) (q : Program)
      (cs : List Bytes), Reads generator' references' q cs → references' ≠ [] →
      ∀ (runner runner' : Runner) (earlier earlier' : List Call) (call call' : Call),
        ((runGenerator r runner generator references).runFrom earlier).2 = earlier ++ [call] →
        ((runGenerator r' runner' generator' references').runFrom earlier').2 =
          earlier' ++ [call'] →
        call.environment = call'.environment → p = q ∧ bs = cs := by
  constructor
  · intro runner earlier
    have hcall := generatorCall_of_reads hmodule h hne
    by_cases hfits : m.program.fits = true ∧ ∀ b ∈ bs, b.length < sizeLimit
    · rw [if_pos hfits] at hcall ⊢
      have henvironment := ofHex_environment h hne hcall
      refine ⟨(referenceEnvironment p bs).toHex, henvironment, ?_⟩
      rw [runFrom_runGenerator, hcall]
    · rw [if_neg hfits] at hcall ⊢
      rw [runFrom_runGenerator, hcall]
  · intro r' generator' references' q cs h' hne' runner runner' earlier earlier' call call'
      hcalls hcalls' heq
    have henv := ofHex_environment h hne (generatorCall_of_calls hcalls)
    have henv' := ofHex_environment h' hne' (generatorCall_of_calls hcalls')
    rw [heq, henv'] at henv
    obtain ⟨rfl, rfl⟩ := referenceEnvironment_inj.1 (Except.ok.inj henv)
    exact ⟨rfl, rfl⟩

/-- The registered module of a registry that has nothing else. -/
def dereferencer : Template := .ofProgram Template.generator (.atom [9]) (by decide)

/-- A generator that refers to no bytes and to the bytes of a pair, and one that refers to them the
other way round. -/
theorem runGenerator_references_swapped :
    ∃ e e',
      (runGenerator (.single dereferencer) (.pure fun _ => .ok "80") "01" ["0x", "ff8080"]).runFrom
        [] = (.ok "80", [⟨"0x09", e⟩]) ∧
      (runGenerator (.single dereferencer) (.pure fun _ => .ok "80") "01" ["ff8080", "0x"]).runFrom
        [] = (.ok "80", [⟨"0x09", e'⟩]) ∧ e ≠ e' := by
  have hmodule : (Registry.single dereferencer).get Template.generator = .ok dereferencer :=
    Registry.get_eq_ok_iff.2 ⟨List.mem_singleton.2 rfl, rfl⟩
  have hread : Reads "01" ["0x", "ff8080"] (.atom [1]) [[], [0xFF, 0x80, 0x80]] :=
    ⟨rfl, .cons rfl (.cons rfl .nil)⟩
  have hread' : Reads "01" ["ff8080", "0x"] (.atom [1]) [[0xFF, 0x80, 0x80], []] :=
    ⟨rfl, .cons rfl (.cons rfl .nil)⟩
  obtain ⟨hcall, hinj⟩ := runGenerator_references hmodule hread (List.cons_ne_nil _ _)
  obtain ⟨hcall', -⟩ := runGenerator_references hmodule hread' (List.cons_ne_nil _ _)
  have hsent := hcall (.pure fun _ => .ok "80") []
  have hsent' := hcall' (.pure fun _ => .ok "80") []
  rw [if_pos (by decide)] at hsent hsent'
  obtain ⟨e, -, hrun⟩ := hsent
  obtain ⟨e', -, hrun'⟩ := hsent'
  refine ⟨e, e', hrun, hrun', fun heq => ?_⟩
  have hsame := hinj _ _ _ _ _ hread' (List.cons_ne_nil _ _) _ _ [] [] _ _
    (congrArg Prod.snd hrun) (congrArg Prod.snd hrun') heq
  exact absurd hsame.2 (by decide)

end CoinPuzzles
