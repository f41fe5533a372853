import CoinPuzzles.Proofs.Settings.Usable

/-!
# Proofs/Settings/Precedence — the first source that has a setting decides it

The sources of a setting are asked in a fixed order, and a null value counts as none: `Decides` says
which value that leaves.  Once the file is read, loading comes to the checks of the seven values
that decide (`load_eq_check`).  Main statement: sources in which the same values decide load the
same settings, or are refused alike (`load_eq_of_agree`).
-/

namespace CoinPuzzles

/-! ## The value that decides -/

namespace Sources

/-- The value of a setting that decides: the first, in the order of caller, environment and file,
that is not null. -/
inductive Decides (s : Sources) (key name : String) : Value → Prop
  | caller {v : Value} (h : s.overrides.lookup key = some v) (hv : v ≠ .null) : Decides s key name v
  | environment {text : String} (hcaller : ∀ v, s.overrides.lookup key = some v → v = .null)
      (h : s.environment.lookup name = some text) : Decides s key name (.text text)
  | file {v : Value} (hcaller : ∀ v, s.overrides.lookup key = some v → v = .null)
      (henvironment : s.environment.lookup name = none)
      (h : Value.find? key s.fileSection = some v) (hv : v ≠ .null) : Decides s key name v

/-- The settings, each with its key and its name in the environment. -/
def settingNames : List (String × String) := [
  ("templates", "COINLENS_TEMPLATES"), ("executor", "COINLENS_EXECUTOR"),
  ("brun_path", "COINLENS_BRUN_PATH"), ("executor_url", "COINLENS_EXECUTOR_URL"),
  ("timeout_seconds", "COINLENS_TIMEOUT"), ("max_workers", "COINLENS_MAX_WORKERS"),
  ("genesis_challenge", "COINLENS_GENESIS_CHALLENGE")]

/-- For each setting the same value decides, or none does in either. -/
def Agree (s s' : Sources) : Prop :=
  ∀ x ∈ settingNames, ∀ v, s.Decides x.1 x.2 v ↔ s'.Decides x.1 x.2 v

theorem present?_eq_some_iff {given : Option Value} {v : Value} :
    present? given = some v ↔ given = some v ∧ v ≠ .null := by
  cases given with
  | none => simp [present?]
  | some w =>
    cases w with
    | null =>
      refine iff_of_false (Option.some_ne_none v).symm ?_
      rintro ⟨h, hv⟩
      exact hv (Option.some.inj h).symm
    | _ =>
      refine ⟨fun h => ⟨h, ?_⟩, And.left⟩
      rw [← Option.some.inj h]
      simp

theorem present?_eq_none_iff {given : Option Value} :
    present? given = none ↔ ∀ v, given = some v → v = .null := by
  simp only [Option.eq_none_iff_forall_ne_some, ne_eq, present?_eq_some_iff, not_and, not_not]

theorem map_find?_fst {β : Type} (key : String) : ∀ entries : List (String × β),
    (entries.find? (·.1 == key)).map (·.2) = entries.lookup key
  | [] => rfl
  | (k, b) :: entries => by
    rw [List.find?_cons, List.lookup_cons, ← map_find?_fst key entries, Bool.beq_comm]
    dsimp only
    split <;> simp_all

/-- The sources are asked one after another. -/
theorem pick_eq (s : Sources) (key name : String) : s.pick key name =
    (present? (s.overrides.lookup key)).or
      (((s.environment.lookup name).map Value.text).or
        (present? (Value.find? key s.fileSection))) := by
  rw [pick, map_find?_fst, ← map_find?_fst name]
  cases present? (s.overrides.lookup key) with
  | some v => rfl
  | none => cases s.environment.find? (·.1 == name) <;> rfl

/-- **A setting is what decides it.** -/
theorem pick_eq_some_iff {s : Sources} {key name : String} {v : Value} :
    s.pick key name = some v ↔ s.Decides key name v := by
  simp only [pick_eq, Option.or_eq_some_iff, Option.map_eq_some_iff, Option.map_eq_none_iff,
    present?_eq_some_iff, present?_eq_none_iff]
  constructor
  · rintro (⟨h, hv⟩ | ⟨hcaller, ⟨text, h, rfl⟩ | ⟨henvironment, h, hv⟩⟩)
    · exact .caller h hv
    · exact .environment hcaller h
    · exact .file hcaller henvironment h hv
  · rintro (⟨h, hv⟩ | ⟨hcaller, h⟩ | ⟨hcaller, henvironment, h, hv⟩)
    · exact .inl ⟨h, hv⟩
    · exact .inr ⟨hcaller, .inl ⟨_, h, rfl⟩⟩
    · exact .inr ⟨hcaller, .inr ⟨henvironment, h, hv⟩⟩

/-- **Sources that agree give the same settings.** -/
theorem raw_eq_of_agree {s s' : Sources} (h : s.Agree s') : s.raw = s'.raw := by
  have hpick {key name : String} (hx : (key, name) ∈ settingNames) :
      s.pick key name = s'.pick key name := by
    refine Option.ext fun v => ?_
    rw [pick_eq_some_iff, pick_eq_some_iff]
    exact h _ hx v
  simp only [raw, RawSettings.mk.injEq]
  refine ⟨hpick ?_, hpick ?_, hpick ?_, hpick ?_, hpick ?_, hpick ?_, hpick ?_⟩ <;>
    simp [settingNames]

end Sources

/-! ## Loading -/

namespace Settings

/-- The file that is named, or the one that is read if none is, has the section; a file that is not
there and not asked for has an empty one. -/
def HasSection (read : Yaml.Reader) (files : FileTree) (file : Option String)
    (fileSection : List (Value × Value)) : Prop :=
  ∃ p entries, fileFor files.home file = .ok p ∧
    readFile read files file.isSome p = .ok entries ∧ sectionOf p entries = .ok fileSection

/-- **Once the file is read, loading comes to the checks of the values that decide.** -/
theorem load_eq_check {read : Yaml.Reader} {files : FileTree} {file : Option String} {s : Sources}
    (h : HasSection read files file s.fileSection) :
    load read files file s.overrides s.environment = s.raw.check files.home := by
  obtain ⟨p, entries, hp, hentries, hsection⟩ := h
  rw [load, hp]
  change (readFile read files file.isSome p >>= _) = _
  rw [hentries]
  change (sectionOf p entries >>= _) = _
  rw [hsection]
  rfl

/-- **Values that do not decide are not looked at.**  Two loads from the same file name, each with
its own caller, environment and section of the file, end alike if for each setting the same value
decides or none does: with the same settings, or with the same refusal.  What a source has that
comes later, or is null, plays no part, be it valid or not. -/
theorem load_eq_of_agree {read : Yaml.Reader} {files files' : FileTree} {file : Option String}
    {s s' : Sources} (hhome : files.home = files'.home)
    (hsection : HasSection read files file s.fileSection)
    (hsection' : HasSection read files' file s'.fileSection) (hagree : s.Agree s') :
    load read files file s.overrides s.environment =
      load read files' file s'.overrides s'.environment := by
  calc load read files file s.overrides s.environment
    _ = s.raw.check files.home := load_eq_check hsection
    _ = s'.raw.check files'.home := by rw [Sources.raw_eq_of_agree hagree, hhome]
    _ = load read files' file s'.overrides s'.environment := (load_eq_check hsection').symm

/-! ## Two loads that end alike -/

/-- Whether a document has a section with one integer and nothing else. -/
def isSection (key : String) (n : Int) : Except Yaml.YamlError Value → Bool
  | .ok (.map [(.text name, .map [(.text k, .int m)])]) => name == "coinlens" && k == key && m == n
  | _ => false

theorem eq_of_isSection {key : String} {n : Int} {x : Except Yaml.YamlError Value}
    (h : isSection key n x = true) :
    x = .ok (.map [(.text "coinlens", .map [(.text key, .int n)])]) := by
  rw [isSection.eq_def] at h
  split at h
  · simp only [Bool.and_eq_true, beq_iff_eq] at h
    obtain ⟨⟨rfl, rfl⟩, rfl⟩ := h
    rfl
  · exact absurd h Bool.false_ne_true

/-- A tree with one file. -/
def oneFile (text : String) : FileTree := ⟨.ofText "home", [(["c.yaml"], some (Text.utf8 text))]⟩

/-- **A file with one integer in its section gives this one value.** -/
theorem hasSection_oneFile {text key : String} {n : Int}
    (htext : (oneFile text).readText (.ofText "c.yaml") = .ok text)
    (hread : isSection key n (Yaml.read text) = true) :
    HasSection Yaml.read (oneFile text) (some "c.yaml") [(.text key, .int n)] := by
  refine ⟨.ofText "c.yaml", [(.text "coinlens", .map [(.text key, .int n)])], rfl, ?_, rfl⟩
  have hexists : (oneFile text).exists? (.ofText "c.yaml") = true := rfl
  rw [readFile, if_pos hexists, htext]
  dsimp only
  rw [eq_of_isSection hread]
  rfl

/-- Sources whose environment and file have bad values that do not decide. -/
def shadowing : Sources where
  overrides := [("max_workers", .int 3)]
  environment := [("COINLENS_MAX_WORKERS", "many"), ("COINLENS_TIMEOUT", "5")]
  fileSection := [(.text "timeout_seconds", .int (-1))]

/-- Sources in which the same values decide, one of them in the file. -/
def shadowless : Sources where
  overrides := [("max_workers", .null), ("timeout_seconds", .text "5")]
  environment := []
  fileSection := [(.text "max_workers", .int 3)]

theorem agree_shadowing : shadowing.Agree shadowless := by
  intro x hx v
  have hpick : shadowing.pick x.1 x.2 = shadowless.pick x.1 x.2 := by
    simp only [Sources.settingNames, List.mem_cons, List.not_mem_nil, or_false] at hx
    obtain rfl | rfl | rfl | rfl | rfl | rfl | rfl := hx <;> rfl
  rw [← Sources.pick_eq_some_iff, ← Sources.pick_eq_some_iff, hpick]

/-- Bad values that do not decide leave no trace. -/
theorem load_eq_of_agree_shadowing :
    HasSection Yaml.read (oneFile "coinlens:\n  timeout_seconds: -1\n") (some "c.yaml")
        shadowing.fileSection ∧
      HasSection Yaml.read (oneFile "coinlens:\n  max_workers: 3\n") (some "c.yaml")
        shadowless.fileSection ∧
      shadowing.Agree shadowless ∧
      load Yaml.read (oneFile "coinlens:\n  timeout_seconds: -1\n") (some "c.yaml")
          shadowing.overrides shadowing.environment =
        load Yaml.read (oneFile "coinlens:\n  max_workers: 3\n") (some "c.yaml")
          shadowless.overrides shadowless.environment := by
  have hfirst : HasSection Yaml.read (oneFile "coinlens:\n  timeout_seconds: -1\n") (some "c.yaml")
      shadowing.fileSection := hasSection_oneFile (by decide +kernel) (by decide +kernel)
  have hsecond : HasSection Yaml.read (oneFile "coinlens:\n  max_workers: 3\n") (some "c.yaml")
      shadowless.fileSection := hasSection_oneFile (by decide +kernel) (by decide +kernel)
  exact ⟨hfirst, hsecond, agree_shadowing, load_eq_of_agree rfl hfirst hsecond agree_shadowing⟩

end Settings

end CoinPuzzles
