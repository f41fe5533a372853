import CoinPuzzles.Command.Run
import CoinPuzzles.Proofs.Coin.Faults
import CoinPuzzles.Proofs.Coin.Printing
import CoinPuzzles.Proofs.Signing.Grouping

/-!
# Proofs/Command/CombineBundles — how the command that merges bundles ends

The command reads its files in order and stops at the first that holds no bundle (`Holds`).  What is
wrong with that file is reported, unless it is a fault (`FileFault`): the program then ends with an
error that it does not handle.  Main statement: `combineBundles_ends`.
-/

namespace CoinPuzzles

open Outcome (Fails fails_bind_iff fails_error_iff fails_mapError_iff fails_mapM_iff not_fails_error
  not_fails_ok)

namespace Command

/-! ## One file -/

/-- **The file that a word names holds the bundle**: it is there, its bytes are a text, the text is
a JSON document, and what the document says is the bundle. -/
def Holds (files : FileTree) (word : String) (b : Bundle) : Prop :=
  ∃ p text document, (Path.ofText word).expandHome? files.home = some p ∧
    files.readText p = .ok text ∧ Json.read text = .ok document ∧
    Bundle.ReadAs Coin.CutsOff (unwrap document) b

/-- **What stops the reader of a file with a fault.** -/
inductive FileFault (files : FileTree) (word : String) : Prop
  /-- The path starts with the home of an unknown user. -/
  | unknownHome (h : (Path.ofText word).expandHome? files.home = none)
  /-- A name in the path has a character that no name can have. -/
  | embeddedNul {p : Path} (hp : (Path.ofText word).expandHome? files.home = some p)
    (h : p.hasNul = true)
  /-- The bytes of the file are no text. -/
  | notText {p : Path} {content : Bytes} (hp : (Path.ofText word).expandHome? files.home = some p)
    (hfile : files.find p = .file content) (h : Text.ofFile? content = none)
  /-- An integer in the document has too many digits. -/
  | numeral {p : Path} {text : String} {cause : NumeralError}
    (hp : (Path.ofText word).expandHome? files.home = some p) (htext : files.readText p = .ok text)
    (h : Json.read text = .error (.numeral cause))
  /-- The document has too many lists and maps inside each other. -/
  | tooNested {p : Path} {text : String}
    (hp : (Path.ofText word).expandHome? files.home = some p) (htext : files.readText p = .ok text)
    (h : Json.read text = .error .tooNested)
  /-- The document has a value of the wrong kind where the reader of bundles looks first. -/
  | faulty {p : Path} {text : String} {document : Value} {entries : List (Value × Value)}
    (hp : (Path.ofText word).expandHome? files.home = some p) (htext : files.readText p = .ok text)
    (hread : Json.read text = .ok document) (hmap : unwrap document = .map entries)
    (h : Bundle.Faulty entries)

variable {files : FileTree} {word : String}

/-- A word names a path once the home in front of it, if any, is known. -/
theorem pathOf_eq_ok_iff {p : Path} :
    pathOf files word = .ok p ↔ (Path.ofText word).expandHome? files.home = some p := by
  rw [pathOf]
  split
  · next q hq => rw [hq, Option.some_inj, Except.ok.injEq]
  · next hnone => simp [hnone]

/-- **A word that names no home is a failure of its own** and not one of the command line. -/
theorem fails_pathOf_iff : Fails CommandError.isFault (pathOf files word) ↔
    (Path.ofText word).expandHome? files.home = none := by
  rw [pathOf]
  split
  · next q hq => exact iff_of_false not_fails_ok (by simp [hq])
  · next hnone => exact iff_of_true (fails_error_iff.2 rfl) hnone

/-- A text is read from a path that the system takes and that leads to a file. -/
theorem readText_eq_ok_iff {p : Path} {text : String} : files.readText p = .ok text ↔
    p.hasNul = false ∧ ∃ content, files.find p = .file content ∧
      Text.ofFile? content = some text := by
  rw [FileTree.readText]
  split
  · next hnul => simp [hnul]
  · next hnul =>
    split
    · next h => simp [h]
    · next h => simp [h]
    · next h => simp [h]
    · next content h =>
      split
      · next htext => simp [h, htext, hnul]
      · next htext => simp [h, htext]

/-- **A path with a null character is refused before anything is looked up.** -/
theorem readText_eq_embeddedNul_iff {p : Path} :
    files.readText p = .error .embeddedNul ↔ p.hasNul = true := by
  rw [FileTree.readText]
  split
  · next hnul => simp [hnul]
  · next hnul =>
    refine iff_of_false ?_ hnul
    split
    · simp
    · simp
    · simp
    · split <;> simp

theorem readText_eq_notText_iff {p : Path} : files.readText p = .error .notText ↔
    ∃ content, files.find p = .file content ∧ Text.ofFile? content = none := by
  rw [FileTree.readText]
  split
  · next hnul => simp [FileTree.find, hnul]
  · split
    · next h => simp [h]
    · next h => simp [h]
    · next h => simp [h]
    · next content h =>
      split
      · next htext => simp [h, htext]
      · next htext => simp [h, htext]

/-- The failure that a failure of the JSON reader is reported as. -/
def jsonFailure (path : String) : JsonError → CommandError
  | .malformed => .malformedBundle path
  | .numeral cause => .numeral cause
  | .tooNested => .nestedBundle path

/-- The bundle that the value in a document says. -/
def bundleOf (path : String) : Value → Except CommandError Bundle
  | .map entries => (Bundle.ofDocument (.map entries)).mapError (.invalidBundle path)
  | _ => .error (.noBundle path)

/-- The file is read in four steps. -/
theorem readBundle_eq : readBundle files word =
    pathOf files word >>= fun p =>
      (files.readText p).mapError (.unreadableBundle p.toText) >>= fun text =>
        (Json.read text).mapError (jsonFailure p.toText) >>= fun document =>
          bundleOf p.toText (unwrap document) := by
  rw [readBundle]
  cases pathOf files word with
  | error e => rfl
  | ok p =>
    change ((files.readText p).mapError _ >>= _) = ((files.readText p).mapError _ >>= _)
    cases (files.readText p).mapError (CommandError.unreadableBundle p.toText) with
    | error e => rfl
    | ok text =>
      change ((Json.read text).mapError _ >>= _) = ((Json.read text).mapError _ >>= _)
      cases Json.read text with
      | error e => cases e <;> rfl
      | ok document =>
        change _ = bundleOf p.toText (unwrap document)
        rw [bundleOf.eq_def]
        rfl

/-- **A document is taken for a bundle exactly if it reads as one**, amounts cut off as they are. -/
theorem bundleOf_eq_ok_iff {path : String} {v : Value} {b : Bundle} :
    bundleOf path v = .ok b ↔ Bundle.ReadAs Coin.CutsOff v b := by
  rw [← Bundle.ofDocument_eq_ok_iff_readAs]
  cases v with
  | map entries => exact Outcome.mapError_eq_ok_iff
  | _ => exact iff_of_false Outcome.error_ne_ok Outcome.error_ne_ok

/-- **Only a map with a fault in it escapes**; every other document is refused by name. -/
theorem fails_bundleOf_iff {path : String} {v : Value} :
    Fails CommandError.isFault (bundleOf path v) ↔ ∃ entries, v = .map entries ∧
      Bundle.Faulty entries := by
  cases v with
  | map entries =>
    have hkind : CommandError.isFault ∘ CommandError.invalidBundle path =
        DocumentError.isFault := by
      funext e
      cases e <;> rfl
    rw [bundleOf, fails_mapError_iff, hkind, Bundle.fails_ofDocument_iff]
    simp
  | _ => exact iff_of_false (not_fails_error rfl) (by simp)

/-- A word is read as a bundle exactly if its file holds that bundle. -/
theorem readBundle_eq_ok_iff {b : Bundle} :
    readBundle files word = .ok b ↔ Holds files word b := by
  simp only [readBundle_eq, Outcome.bind_eq_ok_iff, Outcome.mapError_eq_ok_iff, pathOf_eq_ok_iff,
    bundleOf_eq_ok_iff, Holds]
  constructor
  · rintro ⟨p, hp, text, htext, document, hread, h⟩
    exact ⟨p, text, document, hp, htext, hread, h⟩
  · rintro ⟨p, text, document, hp, htext, hread, h⟩
    exact ⟨p, hp, text, htext, document, hread, h⟩

theorem fails_readBundle_iff :
    Fails CommandError.isFault (readBundle files word) ↔ FileFault files word := by
  simp only [readBundle_eq, fails_bind_iff, fails_pathOf_iff, fails_mapError_iff,
    fails_bundleOf_iff, pathOf_eq_ok_iff, Outcome.mapError_eq_ok_iff]
  constructor
  · rintro (h | ⟨p, hp, ⟨e, htext, he⟩ | ⟨text, htext, ⟨e, hread, he⟩ | ⟨document, hread, entries,
      hmap, h⟩⟩⟩)
    · exact .unknownHome h
    · cases e with
      | notText =>
        obtain ⟨content, hfile, h⟩ := readText_eq_notText_iff.1 htext
        exact .notText hp hfile h
      | embeddedNul => exact .embeddedNul hp (readText_eq_embeddedNul_iff.1 htext)
      | _ => exact absurd he Bool.false_ne_true
    · cases e with
      | malformed => exact absurd he Bool.false_ne_true
      | numeral cause => exact .numeral hp htext hread
      | tooNested => exact .tooNested hp htext hread
    · exact .faulty hp htext hread hmap h
  · rintro (h | ⟨hp, h⟩ | ⟨hp, hfile, h⟩ | ⟨hp, htext, h⟩ | ⟨hp, htext, h⟩ |
      ⟨hp, htext, hread, hmap, h⟩)
    · exact .inl h
    · exact .inr ⟨_, hp, .inl ⟨_, readText_eq_embeddedNul_iff.2 h, rfl⟩⟩
    · exact .inr ⟨_, hp, .inl ⟨_, readText_eq_notText_iff.2 ⟨_, hfile, h⟩, rfl⟩⟩
    · exact .inr ⟨_, hp, .inr ⟨_, htext, .inl ⟨_, h, rfl⟩⟩⟩
    · exact .inr ⟨_, hp, .inr ⟨_, htext, .inl ⟨_, h, rfl⟩⟩⟩
    · exact .inr ⟨_, hp, .inr ⟨_, htext, .inr ⟨_, hread, _, hmap, h⟩⟩⟩

/-- **A file holds the bundle whose document was printed to it.** -/
theorem holds_of_print {b : Bundle} {p : Path} {pretty : Bool}
    (hamount : ∀ s ∈ b.spends, s.coin.amount < 10 ^ Numeral.digitLimit)
    (hp : (Path.ofText word).expandHome? files.home = some p)
    (hfile : files.find p = .file (Text.utf8 (print pretty b.toDocument))) :
    Holds files word b := by
  have hnul : p.hasNul = false := by
    rw [FileTree.find] at hfile
    split at hfile
    · exact nomatch hfile
    · next hnul => exact Bool.eq_false_iff.2 hnul
  refine ⟨p, _, b.toDocument, hp,
    readText_eq_ok_iff.2 ⟨hnul, _, hfile, Bundle.ofFile?_print hamount pretty⟩,
    Bundle.read_print hamount pretty, ?_⟩
  exact Bundle.ofDocument_eq_ok_iff_readAs.1 (Bundle.ofDocument_toDocument b)

/-- **Every amount in a bundle that a file holds can be written.** -/
theorem Holds.amount_lt {b : Bundle} (h : Holds files word b) :
    ∀ s ∈ b.spends, s.coin.amount < 10 ^ Numeral.digitLimit := by
  obtain ⟨p, text, document, -, -, hread, h⟩ := h
  have hdocument := Json.limited_of_read hread
  have hunwrapped : (unwrap document).Limited := by
    cases document with
    | map entries =>
      rw [unwrap]
      cases hfind : Value.find? "spend_bundle" entries with
      | none => exact hdocument
      | some v => exact hdocument.find? hfind
    | _ => exact hdocument
  exact Bundle.amount_lt_of_ofDocument hunwrapped (Bundle.ofDocument_eq_ok_iff_readAs.2 h)

/-! ## All files -/

/-- **The files hold bundles, and these have one that they are merged to.** -/
def Merges (files : FileTree) (words : List String) (merged : Bundle) : Prop :=
  ∃ bundles, List.Forall₂ (Holds files) words bundles ∧
    combine bls .ready (bundles.map some) = .ok merged

variable {words : List String}

/-- **The command has a document exactly if the files merge**, and it is that of the merged
bundle. -/
theorem combined_eq_ok_iff {document : Value} : combined files words = .ok document ↔
    ∃ merged, Merges files words merged ∧ merged.toDocument = document := by
  simp only [combined, Outcome.bind_eq_ok_iff, Outcome.mapM_eq_ok_iff, Outcome.mapError_eq_ok_iff,
    readBundle_eq_ok_iff, Outcome.pure_eq_ok_iff, Merges]
  constructor
  · rintro ⟨bundles, hfiles, merged, hmerged, rfl⟩
    exact ⟨merged, ⟨bundles, hfiles, hmerged⟩, rfl⟩
  · rintro ⟨merged, ⟨bundles, hfiles, hmerged⟩, rfl⟩
    exact ⟨bundles, hfiles, merged, hmerged, rfl⟩

/-- The first file that holds no bundle has a fault. -/
def FirstFault (files : FileTree) (words : List String) : Prop :=
  ∃ done word rest, words = done ++ word :: rest ∧ (∀ w ∈ done, ∃ b, Holds files w b) ∧
    FileFault files word

/-- What is wrong with a signature is refused. -/
theorem not_fails_combine (bundles : List (Option Bundle)) :
    ¬ Fails CommandError.isFault ((combine bls .ready bundles).mapError .signing) := by
  rw [fails_mapError_iff]
  rintro ⟨e, h, he⟩
  rw [combine_ready_eq_error_iff] at h
  obtain ⟨_, b, _, -, -, hb⟩ := Outcome.mapM_eq_error_iff.1 h
  rw [Scheme.signatureOf] at hb
  split at hb
  · exact absurd hb Outcome.ok_ne_error
  · obtain rfl := Except.error.inj hb
    exact Bool.false_ne_true he

/-- **The command escapes exactly at the first file that does not hold a bundle**, if what it has
instead is a fault; merging never escapes. -/
theorem fails_combined_iff :
    Fails CommandError.isFault (combined files words) ↔ FirstFault files words := by
  have hpure {v : Value} : ¬ Fails CommandError.isFault (pure v : Except CommandError Value) :=
    not_fails_ok
  simp only [combined, fails_bind_iff, fails_mapM_iff, fails_readBundle_iff, readBundle_eq_ok_iff,
    not_fails_combine, hpure, and_false, exists_false, or_false, FirstFault]

/-- What is merged is among what the files hold. -/
theorem Merges.amount_lt {merged : Bundle} (h : Merges files words merged) :
    ∀ s ∈ merged.spends, s.coin.amount < 10 ^ Numeral.digitLimit := by
  obtain ⟨bundles, hfiles, hmerged⟩ := h
  obtain ⟨-, signatures, -, rfl⟩ := combine_eq_ok_iff.1 hmerged
  rw [flatMap_signedBundles]
  intro s hs
  obtain ⟨b, hb, hkept⟩ := List.mem_flatMap.1 hs
  obtain ⟨word, -, hholds⟩ := Outcome.exists_of_mem_forall₂ hfiles hb
  rw [Bundle.kept] at hkept
  split at hkept
  · cases hkept
  · exact hholds.amount_lt s hkept

/-! ## The program -/

/-- How the program ends after a run that asked nothing. -/
def endingOf : Except CommandError String → Except CommandError Ending
  | .ok text => .ok ⟨0, text, "", []⟩
  | .error e => if e.isFault then .error e else .ok ⟨1, "", e.line, []⟩

/-- Surroundings with one file, named `a.json`. -/
def onlyFile (content : String) : Surroundings where
  files := ⟨.ofText "/home/oracle", [(["a.json"], some (Text.utf8 content))]⟩
  environment := []
  outside := ⟨fun _ => .notFound, fun _ => .failed⟩

section Program

variable {s : Surroundings} {arguments words : List String} {i : Invocation}

/-- The command line prints what the files come to, one way or the other. -/
theorem runCommandLine_combineBundles (hi : Invocation.ofArguments arguments = .ok i)
    (hcommand : i.command = .combineBundles words) :
    runCommandLine s arguments = endingOf ((combined s.files words).map (print i.pretty)) := by
  rw [runCommandLine, hi]
  dsimp only
  rw [Invocation.run, hcommand]
  rfl

/-- **How the command that merges bundles ends.**  It ends with an error that is not handled exactly
if the first file without a bundle has a fault.  Otherwise it prints one JSON document, that of the
merged bundle, if the files have one, and nothing but a line with what is wrong if not. -/
theorem combineBundles_ends (hi : Invocation.ofArguments arguments = .ok i)
    (hcommand : i.command = .combineBundles words) :
    ((∃ e, runCommandLine s arguments = .error e) ↔ FirstFault s.files words) ∧
      ∀ ending, runCommandLine s arguments = .ok ending →
        (∃ merged, Merges s.files words merged ∧
          Json.read ending.output = .ok merged.toDocument ∧
          ending = ⟨0, ending.output, "", []⟩) ∨
        ((∀ merged, ¬ Merges s.files words merged) ∧
          ∃ message, ending = ⟨1, "", "error: " ++ message, []⟩) := by
  rw [runCommandLine_combineBundles hi hcommand, ← fails_combined_iff]
  cases hcombined : combined s.files words with
  | ok document =>
    obtain ⟨merged, hmerged, rfl⟩ := combined_eq_ok_iff.1 hcombined
    refine ⟨iff_of_false (by rintro ⟨e, h⟩; cases h) not_fails_ok, fun ending h => ?_⟩
    obtain rfl := Except.ok.inj h
    exact .inl ⟨merged, hmerged, Bundle.read_print hmerged.amount_lt i.pretty, rfl⟩
  | error e =>
    have hnone : ∀ merged, ¬ Merges s.files words merged := fun merged hmerged =>
      Outcome.error_ne_ok (hcombined.symm.trans (combined_eq_ok_iff.2 ⟨merged, hmerged, rfl⟩))
    rw [Except.map, fails_error_iff, endingOf]
    split
    · next hfault => exact ⟨iff_of_true ⟨e, rfl⟩ hfault, fun ending h => by cases h⟩
    · next hrefused =>
      refine ⟨iff_of_false (by rintro ⟨e', h⟩; cases h) hrefused, fun ending h => ?_⟩
      obtain rfl := Except.ok.inj h
      refine .inr ⟨hnone, e.message ++ if e.isOpen then "" else "\n", ?_⟩
      rw [CommandError.line, String.append_assoc]

end Program

/-- Surroundings with two files, named `a.json` and `b.json`. -/
def twoFiles (first second : String) : Surroundings where
  files := ⟨.ofText "/home/oracle",
    [(["a.json"], some (Text.utf8 first)), (["b.json"], some (Text.utf8 second))]⟩
  environment := []
  outside := ⟨fun _ => .notFound, fun _ => .failed⟩

theorem find_twoFiles_first (first second : String) :
    (twoFiles first second).files.find (.ofText "a.json") = .file (Text.utf8 first) := rfl

theorem find_twoFiles_second (first second : String) :
    (twoFiles first second).files.find (.ofText "b.json") = .file (Text.utf8 second) := rfl

/-- A bundle of one spend that is signed by infinity. -/
def signedSample (x : UInt8) : Bundle := ⟨Curve.infinityBytes 96, [sampleSpend x]⟩

theorem amount_lt_signedSample (x : UInt8) :
    ∀ s ∈ (signedSample x).spends, s.coin.amount < 10 ^ Numeral.digitLimit := by
  intro s hs
  obtain rfl := List.mem_singleton.1 hs
  exact Nat.one_lt_pow (by decide) (by decide)

/-- Surroundings with the documents of two signed bundles, as the command prints them. -/
def signedFiles : Surroundings :=
  twoFiles (print false (signedSample 1).toDocument) (print false (signedSample 2).toDocument)

/-- **The two files merge**: each is read back from what was printed, and signatures at infinity add
up to infinity. -/
theorem merges_signedFiles : Merges signedFiles.files ["a.json", "b.json"]
    ⟨Curve.infinityBytes 96, [sampleSpend 1, sampleSpend 2]⟩ := by
  have hfirst : Holds signedFiles.files "a.json" (signedSample 1) :=
    holds_of_print (p := .ofText "a.json") (amount_lt_signedSample 1) rfl (find_twoFiles_first _ _)
  have hsecond : Holds signedFiles.files "b.json" (signedSample 2) :=
    holds_of_print (p := .ofText "b.json") (amount_lt_signedSample 2) rfl (find_twoFiles_second _ _)
  exact ⟨_, .cons hfirst (.cons hsecond .nil), combine_infinity (.inr rfl)⟩

/-- **Two signed bundles that were printed merge to the bundle of both spends.** -/
theorem combineBundles_ends_signed : ∃ ending,
    runCommandLine signedFiles ["combine-bundles", "a.json", "b.json"] = .ok ending ∧
      Json.read ending.output =
        .ok (Bundle.toDocument ⟨Curve.infinityBytes 96, [sampleSpend 1, sampleSpend 2]⟩) := by
  have hi : Invocation.ofArguments ["combine-bundles", "a.json", "b.json"] =
      .ok ⟨none, none, false, .combineBundles ["a.json", "b.json"]⟩ := by decide
  have hcombined := combined_eq_ok_iff.2 ⟨_, merges_signedFiles, rfl⟩
  have hnofault : ¬ FirstFault signedFiles.files ["a.json", "b.json"] := by
    rw [← fails_combined_iff, hcombined]
    exact not_fails_ok
  have ⟨hfault, hending⟩ := combineBundles_ends (s := signedFiles) hi rfl
  cases hrun : runCommandLine signedFiles ["combine-bundles", "a.json", "b.json"] with
  | error e => exact absurd (hfault.1 ⟨e, hrun⟩) hnofault
  | ok ending =>
    obtain ⟨merged, hmerged, hread, -⟩ | ⟨hnone, -⟩ := hending ending hrun
    · have hsame := (combined_eq_ok_iff.2 ⟨_, hmerged, rfl⟩).symm.trans hcombined
      exact ⟨ending, rfl, by rw [hread, Except.ok.inj hsame]⟩
    · exact absurd merges_signedFiles (hnone _)

/-- A document whose spends are a number stops the reader of its file with a fault. -/
theorem readBundle_countedSpends :
    readBundle (onlyFile "\x7b\x22coin_spends\x22: 5\x7d").files "a.json" =
      .error (.invalidBundle "a.json" .wrongShape) := by
  decide +kernel

/-- **A document whose spends are a number is not reported**: the program ends with an error that it
does not handle. -/
theorem runCommandLine_countedSpends :
    runCommandLine (onlyFile "\x7b\x22coin_spends\x22: 5\x7d") ["combine-bundles", "a.json"] =
      .error (.invalidBundle "a.json" .wrongShape) := by
  have hi : Invocation.ofArguments ["combine-bundles", "a.json"] =
      .ok ⟨none, none, false, .combineBundles ["a.json"]⟩ := by decide
  rw [runCommandLine_combineBundles hi rfl, combined, List.mapM_cons, readBundle_countedSpends]
  rfl

end Command

end CoinPuzzles
