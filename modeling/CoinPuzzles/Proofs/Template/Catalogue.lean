import CoinPuzzles.Proofs.Template.Construction
import CoinPuzzles.Template.Catalogue
import Mathlib.Data.List.Induction

/-!
# Proofs/Template/Catalogue — what a catalogue keeps of its sources

A catalogue has sources: the files of templates of a directory, or the keys of a map.  Each gives a
name and a value (`Source.pair?`), and two of them may give one name.  Pairs of one name are folded
before any program is read, and the last of them stays (`mem_lastWins_iff`), so the registry holds
the program of the last source of every name.  Main statement: which sources a loaded registry
represents (`Catalogue.load_sources`).
-/

namespace CoinPuzzles

/-! ## Pairs of one name -/

section

variable {α : Type} {name : String} {v : α} {e : String × α} {pairs : List (String × α)}

theorem lastWins_concat : lastWins (pairs ++ [e]) = setPair e.1 e.2 (lastWins pairs) :=
  List.foldl_concat ..

/-- Setting a name adds the pair and takes out what the name had before. -/
theorem mem_setPair_iff : ∀ {pairs : List (String × α)}, (pairs.map (·.1)).Nodup →
    (e ∈ setPair name v pairs ↔ e = (name, v) ∨ e ∈ pairs ∧ e.1 ≠ name)
  | [], _ => by simp [setPair]
  | e' :: rest, h => by
    obtain ⟨hfresh, hrest⟩ := List.nodup_cons.1 h
    rw [setPair]
    split
    · next hname =>
      have hother : ∀ d ∈ rest, d.1 ≠ name := fun d hd hn =>
        hfresh (List.mem_map.2 ⟨d, hd, hn.trans hname.symm⟩)
      rw [List.mem_cons, List.mem_cons]
      refine or_congr_right ⟨fun h => ⟨.inr h, hother e h⟩, ?_⟩
      rintro ⟨rfl | h, hne⟩
      · exact absurd hname hne
      · exact h
    · next hname =>
      rw [List.mem_cons, mem_setPair_iff hrest, or_left_comm, List.mem_cons]
      refine or_congr_right ⟨?_, ?_⟩
      · rintro (rfl | ⟨h, hne⟩)
        · exact ⟨.inl rfl, hname⟩
        · exact ⟨.inr h, hne⟩
      · rintro ⟨rfl | h, hne⟩
        · exact .inl rfl
        · exact .inr ⟨h, hne⟩

/-- **What stays of pairs is the last pair of every name.** -/
theorem mem_lastWins_iff : e ∈ lastWins pairs ↔
    ∃ before after, pairs = before ++ e :: after ∧ e.1 ∉ after.map (·.1) := by
  induction pairs using List.reverseRecOn with
  | nil => simp [lastWins]
  | append_singleton pairs last ih =>
    rw [lastWins_concat, mem_setPair_iff (nodup_lastWins pairs), ih]
    constructor
    · rintro (rfl | ⟨⟨before, after, rfl, hafter⟩, hname⟩)
      · exact ⟨pairs, [], rfl, List.not_mem_nil⟩
      · refine ⟨before, after ++ [last], by simp, ?_⟩
        rw [List.map_append, List.mem_append, not_or]
        exact ⟨hafter, by simpa using hname⟩
    · rintro ⟨before, after, hsplit, hafter⟩
      obtain rfl | ⟨after, last', rfl⟩ := List.eq_nil_or_concat' after
      · obtain ⟨-, h⟩ := List.append_inj' hsplit rfl
        exact .inl (List.cons.inj h).1.symm
      · rw [← List.cons_append, ← List.append_assoc] at hsplit
        obtain ⟨rfl, h⟩ := List.append_inj' hsplit rfl
        obtain rfl := (List.cons.inj h).1
        rw [List.map_append, List.mem_append, not_or] at hafter
        exact .inr ⟨⟨before, after, rfl, hafter.1⟩, by simpa using hafter.2⟩

theorem mem_of_mem_lastWins (h : e ∈ lastWins pairs) : e ∈ pairs := by
  obtain ⟨before, after, rfl, -⟩ := mem_lastWins_iff.1 h
  exact List.mem_append_right _ List.mem_cons_self

/-- Every name stays. -/
theorem exists_mem_lastWins (h : e ∈ pairs) : ∃ e' ∈ lastWins pairs, e'.1 = e.1 := by
  induction pairs using List.reverseRecOn with
  | nil => cases h
  | append_singleton pairs last ih =>
    rw [lastWins_concat]
    by_cases hname : e.1 = last.1
    · exact ⟨last, (mem_setPair_iff (nodup_lastWins pairs)).2 (.inl rfl), hname.symm⟩
    · have hmem : e ∈ pairs := by
        rcases List.mem_append.1 h with h | h
        · exact h
        · exact absurd (congrArg Prod.fst (List.mem_singleton.1 h)) hname
      obtain ⟨e', he', hsame⟩ := ih hmem
      exact ⟨e', (mem_setPair_iff (nodup_lastWins pairs)).2 (.inr ⟨he', hsame ▸ hname⟩), hsame⟩

end

/-! ## Sources -/

namespace Catalogue

/-- What a catalogue takes a template from: a file of a directory, or a key of a map. -/
inductive Source where
  | file (name : String) (content : Bytes)
  | key (k v : Value)

namespace Source

/-- The name and the value that a source gives. -/
def pair? : Source → Option (String × Value)
  | file name content => do
    let template ← templateName? name
    let s ← Text.ofFile? content
    return (template, .text (String.ofList (Text.trim s.toList)))
  | key k v => k.write.toOption.map (·, v)

/-- The name that a source gives. -/
def name? (s : Source) : Option String := s.pair?.map (·.1)

/-- The program that a source gives. -/
def program? (s : Source) : Option Program :=
  s.pair?.bind fun e => (Registry.programOf e.1 e.2).toOption

end Source

/-- A file of a template: its name has one of the endings. -/
def isTemplateFile (file : String) : Bool :=
  endings.any fun ending => ending.toList.isSuffixOf file.toList

/-- The keys of the map of templates that a document holds. -/
def keysOf : Value → List Source
  | .map entries =>
    match (Value.find? "templates" entries).getD (.map entries) with
    | .map templates => templates.map fun e => .key e.1 e.2
    | _ => []
  | _ => []

/-- The sources that a path leads to, in the order in which they are read. -/
def sourcesAt (read : Yaml.Reader) (files : FileTree) (p : Path) : List Source :=
  match files.find p with
  | .directory entries =>
    (entries.filter fun e => isTemplateFile e.1).map fun e => .file e.1 e.2
  | .file content =>
    match (Text.ofFile? content).map read with
    | some (.ok document) => keysOf document
    | _ => []
  | _ => []

/-- **The files of templates are those that have a name for one.** -/
theorem isTemplateFile_iff {file : String} :
    isTemplateFile file = true ↔ ∃ name, templateName? file = some name := by
  rw [← Option.isSome_iff_exists, templateName?, List.findSome?_isSome_iff, isTemplateFile,
    List.any_eq_true]
  simp only [Option.isSome_ite]

/-- The files of templates give the pairs that are read from a directory. -/
theorem entries_of_ofFiles {path : String} {entries : List (String × Bytes)}
    {pairs : List (String × Value)} (h : ofFiles path entries = .ok pairs) :
    ((entries.filter fun e => isTemplateFile e.1).map fun e => Source.pair? (.file e.1 e.2)) =
      pairs.map some := by
  rw [ofFiles, Outcome.bind_eq_ok_iff] at h
  obtain ⟨pairs', hread, h⟩ := h
  obtain rfl : pairs' = pairs := by
    split at h
    · exact absurd h Outcome.error_ne_ok
    · exact Outcome.pure_eq_ok_iff.1 h
  clear h
  induction entries generalizing pairs' with
  | nil =>
    rw [List.filterMapM_nil, Outcome.pure_eq_ok_iff] at hread
    rw [← hread]
    rfl
  | cons e rest ih =>
    obtain ⟨file, content⟩ := e
    rw [List.filterMapM_cons, Outcome.bind_eq_ok_iff] at hread
    obtain ⟨found, hfound, hread⟩ := hread
    cases hname : templateName? file with
    | none =>
      have hkind : ¬isTemplateFile file = true := fun hkind => by
        obtain ⟨name, h⟩ := isTemplateFile_iff.1 hkind
        exact absurd (hname.symm.trans h) (by simp)
      simp only [hname] at hfound
      obtain rfl := Except.ok.inj hfound
      rw [List.filter_cons, if_neg hkind]
      exact ih _ hread
    | some name =>
      have hkind : isTemplateFile file = true := isTemplateFile_iff.2 ⟨name, hname⟩
      cases hs : Text.ofFile? content with
      | none =>
        simp only [hname, hs] at hfound
        exact absurd hfound Outcome.error_ne_ok
      | some s =>
        simp only [hname, hs] at hfound
        obtain rfl := Except.ok.inj hfound
        obtain ⟨pairs, hpairs, hread⟩ := Outcome.bind_eq_ok_iff.1 hread
        obtain rfl := Outcome.pure_eq_ok_iff.1 hread
        rw [List.filter_cons, if_pos hkind, List.map_cons, List.map_cons, ih _ hpairs,
          Source.pair?, hname, hs]
        rfl

/-- The keys of a map of templates give the pairs that are read from a document. -/
theorem entries_keysOf {path : String} {document : Value} {pairs : List (String × Value)}
    (h : ofDocument path document = .ok pairs) :
    (keysOf document).map Source.pair? = pairs.map some := by
  have hkey {k v : Value} {e : String × Value}
      (h : (do return (← k.write.mapError CatalogueError.numeral, v)) = Except.ok e) :
      Source.pair? (.key k v) = some e := by
    obtain ⟨name, hname, h⟩ := Outcome.bind_eq_ok_iff.1 h
    rw [Source.pair?, Outcome.mapError_eq_ok_iff.1 hname, ← Outcome.pure_eq_ok_iff.1 h]
    rfl
  cases document with
  | map entries =>
    rw [ofDocument] at h
    rw [keysOf]
    split at h
    · next e es htemplates =>
      rw [htemplates, List.map_map]
      rw [Outcome.mapM_eq_ok_iff] at h
      exact Outcome.map_eq_of_forall₂ (h.imp fun _ _ h => hkey h)
    · exact absurd h Outcome.error_ne_ok
  | _ => exact absurd h Outcome.error_ne_ok

/-- **The sources of a path give the pairs that are read there**, one for each. -/
theorem entries_sourcesAt {read : Yaml.Reader} {files : FileTree} {p : Path}
    {pairs : List (String × Value)} (h : textsAt read files p = .ok pairs) :
    (sourcesAt read files p).map Source.pair? = pairs.map some := by
  rw [textsAt] at h
  rw [sourcesAt]
  cases hfound : files.find p with
  | directory entries =>
    simp only [hfound] at h ⊢
    rw [List.map_map]
    exact entries_of_ofFiles h
  | file content =>
    cases hs : Text.ofFile? content with
    | none =>
      simp only [hfound, hs] at h
      exact absurd h Outcome.error_ne_ok
    | some s =>
      cases hread : read s with
      | error cause =>
        simp only [hfound, hs, hread] at h
        exact absurd h Outcome.error_ne_ok
      | ok document =>
        simp only [hfound, hs, hread] at h
        simp only [hs, Option.map_some, hread]
        exact entries_keysOf h
  | missing =>
    simp only [hfound] at h
    exact absurd h Outcome.error_ne_ok
  | belowFile =>
    simp only [hfound] at h
    exact absurd h Outcome.error_ne_ok

end Catalogue

/-! ## What a registry keeps -/

open Catalogue (Source sourcesAt)

variable {r : Registry} {s : Source} {sources : List Source}

/-- The registry holds the name that a source gives, with the program that it gives. -/
def Registry.Represents (r : Registry) (s : Source) : Prop :=
  ∃ t, s.name? = some t.name ∧ s.program? = some t.program ∧ r.get t.name = .ok t

/-- The names of a registry are those of the sources, each with the program of the last source that
gives it. -/
structure Registry.Folds (r : Registry) (sources : List Source) : Prop where
  contains_iff (name : String) : r.contains name = true ↔ ∃ s ∈ sources, s.name? = some name
  represents_last {before after : List Source} {s : Source}
    (hsplit : sources = before ++ s :: after) (hlast : ∀ s' ∈ after, s'.name? ≠ s.name?) :
    r.Represents s
  represents_all_iff : (∀ s ∈ sources, r.Represents s) ↔
    ∀ s ∈ sources, ∀ s' ∈ sources, s.name? = s'.name? → s.program? = s'.program?

/-- Two sources of one name that are represented give one program. -/
theorem Registry.Represents.program?_eq {s' : Source} (h : r.Represents s) (h' : r.Represents s')
    (hname : s.name? = s'.name?) : s.program? = s'.program? := by
  obtain ⟨t, ht, hprogram, hget⟩ := h
  obtain ⟨t', ht', hprogram', hget'⟩ := h'
  have hsame : t.name = t'.name := Option.some.inj (ht.symm.trans (hname.trans ht'))
  obtain rfl := Except.ok.inj (hget.symm.trans (hsame ▸ hget'))
  rw [hprogram, hprogram']

/-- A source that gives the name and the program of one that is represented is so too. -/
theorem Registry.Represents.of_eq {s' : Source} (h : r.Represents s') (hname : s.name? = s'.name?)
    (hprogram : s.program? = s'.program?) : r.Represents s := by
  obtain ⟨t, ht, hp, hget⟩ := h
  exact ⟨t, hname.trans ht, hprogram.trans hp, hget⟩

section

variable {pairs : List (String × Value)} {e : String × Value}

/-- The sources of the pairs that stay are represented. -/
theorem represents_of_mem_lastWins (h : Registry.ofTexts pairs = .ok r)
    (he : e ∈ lastWins pairs) (hs : s.pair? = some e) : r.Represents s := by
  obtain ⟨t, ht, hname, hprogram⟩ :=
    Outcome.exists_of_mem_forall₂ (Registry.ofTexts_eq_ok_iff.1 h).flip he
  refine ⟨t, ?_, ?_, Registry.get_eq_ok_iff.2 ⟨ht, rfl⟩⟩
  · rw [Source.name?, hs, hname]
    rfl
  · rw [Source.program?, hs, Option.bind_some, hprogram]
    rfl

/-- **A registry has exactly the names that it was made from.** -/
theorem contains_iff_of_ofTexts {name : String} (h : Registry.ofTexts pairs = .ok r) :
    r.contains name = true ↔ ∃ e ∈ pairs, e.1 = name := by
  have hgiven := Registry.ofTexts_eq_ok_iff.1 h
  have hnames : r.templates.map (·.name) = (lastWins pairs).map (·.1) :=
    (Outcome.map_eq_of_forall₂ (hgiven.imp fun _ _ h => h.1.symm)).symm
  rw [Registry.contains, ← not_iff_not, Bool.not_eq_true, Option.isSome_eq_false_iff,
    Option.isNone_iff_eq_none, Registry.findName?_eq_none_iff, not_iff_not, hnames, List.mem_map]
  constructor
  · rintro ⟨e, he, hname⟩
    exact ⟨e, mem_of_mem_lastWins he, hname⟩
  · rintro ⟨e, he, rfl⟩
    exact exists_mem_lastWins he

/-- **A registry folds the sources of the pairs it is made of.** -/
theorem folds_of_ofTexts (h : Registry.ofTexts pairs = .ok r)
    (hsources : sources.map Source.pair? = pairs.map some) : r.Folds sources := by
  have hsource {e : String × Value} (he : e ∈ pairs) : ∃ s ∈ sources, s.pair? = some e :=
    List.mem_map.1 (hsources ▸ List.mem_map_of_mem he)
  have hentry {s : Source} (hs : s ∈ sources) : ∃ e ∈ pairs, s.pair? = some e := by
    have hmem : s.pair? ∈ pairs.map some := hsources ▸ List.mem_map_of_mem hs
    obtain ⟨e, he, heq⟩ := List.mem_map.1 hmem
    exact ⟨e, he, heq.symm⟩
  have hname {s : Source} {e : String × Value} (hs : s.pair? = some e) : s.name? = some e.1 := by
    rw [Source.name?, hs]
    rfl
  refine ⟨fun name => ?_, fun {before after s} hsplit hlast => ?_, ⟨fun hall s hs s' hs' => ?_,
    fun hsame s hs => ?_⟩⟩
  · rw [contains_iff_of_ofTexts h]
    constructor
    · rintro ⟨e, he, rfl⟩
      obtain ⟨s, hs, hse⟩ := hsource he
      exact ⟨s, hs, hname hse⟩
    · rintro ⟨s, hs, hsname⟩
      obtain ⟨e, he, hse⟩ := hentry hs
      exact ⟨e, he, Option.some.inj ((hname hse).symm.trans hsname)⟩
  · rw [hsplit, List.map_append, List.map_cons] at hsources
    obtain ⟨pairs₁, rest, rfl, -, hrest⟩ := List.map_eq_append_iff.1 hsources.symm
    obtain ⟨e, pairs₂, rfl, he, hafter⟩ := List.map_eq_cons_iff.1 hrest
    refine represents_of_mem_lastWins h (mem_lastWins_iff.2 ⟨pairs₁, pairs₂, rfl, ?_⟩) he.symm
    intro hmem
    obtain ⟨e', he', hsame⟩ := List.mem_map.1 hmem
    obtain ⟨s', hs', hse'⟩ := List.mem_map.1 (hafter ▸ List.mem_map_of_mem (f := some) he')
    exact hlast s' hs' (by rw [hname hse', hname he.symm, hsame])
  · exact (hall s hs).program?_eq (hall s' hs')
  · -- the pair of this name that stays comes from some source, which gives the same program
    obtain ⟨e, he, hse⟩ := hentry hs
    obtain ⟨e', he', hnames⟩ := exists_mem_lastWins he
    obtain ⟨s', hs', hse'⟩ := hsource (mem_of_mem_lastWins he')
    have heq : s.name? = s'.name? := by rw [hname hse, hname hse', hnames]
    exact (represents_of_mem_lastWins h he' hse').of_eq heq (hsame s hs s' hs' heq)

end

namespace Catalogue

/-- **A registry is loaded once its path is known, its pairs are read and their programs fit.** -/
theorem load_eq_ok_iff {read : Yaml.Reader} {files : FileTree} {p : Path} :
    load read files p = .ok r ↔ ∃ place pairs, p.expandHome? files.home = some place ∧
      textsAt read files place = .ok pairs ∧ Registry.ofTexts pairs = .ok r := by
  rw [load]
  cases p.expandHome? files.home with
  | none => simp
  | some place =>
    simp only [Outcome.bind_eq_ok_iff, Outcome.mapError_eq_ok_iff, Option.some.injEq]
    constructor
    · rintro ⟨pairs, h⟩
      exact ⟨place, pairs, rfl, h⟩
    · rintro ⟨_, pairs, rfl, h⟩
      exact ⟨pairs, h⟩

/-- **Which sources a loaded registry represents.**  Its names are those of the sources, each with
the program of the last source that gives it; so every source is represented exactly if sources of
one name give one program.  The reader of documents plays no part in this. -/
theorem load_sources {read : Yaml.Reader} {files : FileTree} {p : Path}
    (h : load read files p = .ok r) :
    ∃ place, p.expandHome? files.home = some place ∧ r.Folds (sourcesAt read files place) := by
  obtain ⟨place, pairs, hplace, hpairs, hr⟩ := load_eq_ok_iff.1 h
  exact ⟨place, hplace, folds_of_ofTexts hr (entries_sourcesAt hpairs)⟩

/-! ## A directory with two files of one name -/

/-- A directory in which two files with different endings give one name. -/
def twoEndings : FileTree where
  home := .ofText "home"
  entries := [(["d", "a.clsp.hex"], some (Text.utf8 "02")), (["d", "a.hex"], some (Text.utf8 "03"))]

/-- The program of the file that is read last, under the name that both files give. -/
def lastOfTwo : Registry := .single (.ofProgram "a" (.atom [3]) (by decide))

/-- The two files are read in the order of their names. -/
theorem find_twoEndings : twoEndings.find (.ofText "d") =
    .directory [("a.clsp.hex", Text.utf8 "02"), ("a.hex", Text.utf8 "03")] := by
  have hwalk : twoEndings.find (.ofText "d") = .directory
      (List.mergeSort [("a.clsp.hex", Text.utf8 "02"), ("a.hex", Text.utf8 "03")]
        fun a b => Order.atMost Char.toNat a.1.toList b.1.toList) := rfl
  rw [hwalk, List.mergeSort_of_pairwise (by decide)]

/-- The files of the directory in the order of their names, each under its own ending. -/
theorem sourcesAt_twoEndings : sourcesAt Yaml.read twoEndings (.ofText "d") =
    [.file "a.clsp.hex" (Text.utf8 "02"), .file "a.hex" (Text.utf8 "03")] := by
  rw [sourcesAt, find_twoEndings]
  rfl

/-- **Of two files with one name the last is loaded**, and nothing is refused. -/
theorem load_twoEndings : load Yaml.read twoEndings (.ofText "d") = .ok lastOfTwo := by
  have hplace : (Path.ofText "d").expandHome? twoEndings.home = some (.ofText "d") := rfl
  have hpairs : textsAt Yaml.read twoEndings (.ofText "d") =
      .ok [("a", .text "02"), ("a", .text "03")] := by
    rw [textsAt, find_twoEndings]
    rfl
  have hprogram : Registry.programOf "a" (.text "03") = .ok (.atom [3]) := rfl
  refine load_eq_ok_iff.2 ⟨_, _, hplace, hpairs, Registry.ofTexts_eq_ok_iff.2 ?_⟩
  exact .cons ⟨rfl, hprogram⟩ .nil

/-- The two files of one name lead to a registry that folds them. -/
theorem load_sources_twoEndings : ∃ r, load Yaml.read twoEndings (.ofText "d") = .ok r ∧
    ∃ place, (Path.ofText "d").expandHome? twoEndings.home = some place ∧
      r.Folds (sourcesAt Yaml.read twoEndings place) :=
  ⟨lastOfTwo, load_twoEndings, load_sources load_twoEndings⟩

/-- Not every source of a catalogue that is loaded is represented: the first of the two files gives
another program under the same name, and nothing refuses it. -/
theorem not_represents_twoEndings : ¬∀ (files : FileTree) (p : Path) (r : Registry),
    load Yaml.read files p = .ok r → ∃ place, p.expandHome? files.home = some place ∧
      ∀ s ∈ sourcesAt Yaml.read files place, r.Represents s := by
  intro h
  obtain ⟨place, hplace, hall⟩ := h _ _ _ load_twoEndings
  obtain rfl : Path.ofText "d" = place := Option.some.inj hplace
  rw [sourcesAt_twoEndings, List.forall_mem_cons, List.forall_mem_singleton] at hall
  have hfirst : (Source.file "a.clsp.hex" (Text.utf8 "02")).pair? = some ("a", .text "02") := rfl
  have hlast : (Source.file "a.hex" (Text.utf8 "03")).pair? = some ("a", .text "03") := rfl
  have htwo : Registry.programOf "a" (.text "02") = .ok (.atom [2]) := rfl
  have hthree : Registry.programOf "a" (.text "03") = .ok (.atom [3]) := rfl
  have hsame := hall.1.program?_eq hall.2 (by rw [Source.name?, hfirst, Source.name?, hlast]; rfl)
  rw [Source.program?, hfirst, Source.program?, hlast, Option.bind_some, Option.bind_some, htwo,
    hthree] at hsame
  exact absurd hsame (by decide)

end Catalogue

end CoinPuzzles
