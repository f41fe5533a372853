import CoinPuzzles.Proofs.Order.Sorting
import CoinPuzzles.Proofs.Outcome
import CoinPuzzles.Proofs.Program.HashEvaluation
import CoinPuzzles.Proofs.Template.Registered
import Mathlib.Data.List.Perm.Basic

/-!
# Proofs/Template/Construction — the registry that named texts make

Adding a template under a new name either appends it or finds its hash taken
(`Registry.insert_eq_ok_iff`).  So a run over pairs with different names ends in the one registry
that lists them (`Registry.ofTexts_eq_ok_iff`), and nothing but the hashes can stop it.  Main
statement: which texts make a registry, and what it answers (`Registry.ofTexts_invariant`).
-/

namespace CoinPuzzles

open Program (depthLimit)

/-! ## Pairs under different names -/

section

variable {α : Type}

theorem setPair_of_notMem {name : String} {v : α} : ∀ {pairs : List (String × α)},
    name ∉ pairs.map (·.1) → setPair name v pairs = pairs ++ [(name, v)]
  | [], _ => rfl
  | e :: rest, h => by
    rw [List.map_cons, List.mem_cons, not_or] at h
    rw [setPair, if_neg (Ne.symm h.1), setPair_of_notMem h.2, List.cons_append]

/-- Pairs under different names stay as they are. -/
theorem lastWins_eq_self {pairs : List (String × α)} (h : (pairs.map (·.1)).Nodup) :
    lastWins pairs = pairs := by
  suffices ∀ acc : List (String × α), ((acc ++ pairs).map (·.1)).Nodup →
      pairs.foldl (fun acc e => setPair e.1 e.2 acc) acc = acc ++ pairs from this [] h
  clear h
  induction pairs with
  | nil => exact fun acc _ => (List.append_nil acc).symm
  | cons e rest ih =>
    intro acc h
    have hfresh : e.1 ∉ acc.map (·.1) := by
      rw [List.map_append, List.nodup_append] at h
      exact fun hmem => h.2.2 _ hmem _ List.mem_cons_self rfl
    rw [List.append_cons] at h ⊢
    rw [List.foldl_cons, setPair_of_notMem hfresh, ih _ h]

end

/-! ## Adding templates one by one -/

namespace Template

/-- The name and the program of a template. -/
def named (t : Template) : String × Program := (t.name, t.program)

/-- **A template is its name and its program**: the hash belongs to the program. -/
theorem named_injective : Function.Injective named := by
  intro t u h
  obtain ⟨hname, hprogram⟩ := Prod.mk.inj h
  have hhash : t.hash = u.hash := by rw [t.hash_eq_merkle, u.hash_eq_merkle, hprogram]
  cases t
  cases u
  obtain rfl := hname
  obtain rfl := hprogram
  obtain rfl := hhash
  rfl

end Template

namespace Registry

variable {r r' : Registry} {t : Template}

/-- A registry is the list of its templates, the rest being facts about them. -/
theorem eq_of_templates_eq (h : r.templates = r'.templates) : r = r' := by
  cases r
  cases r'
  obtain rfl := h
  rfl

/-- **A template under a new name is appended, unless its hash is registered already.** -/
theorem insert_eq_ok_iff (hname : ∀ u ∈ r.templates, u.name ≠ t.name) :
    r.insert t = .ok r' ↔
      (∀ u ∈ r.templates, u.hash ≠ t.hash) ∧ r'.templates = r.templates ++ [t] := by
  rw [insert]
  split
  · next other hother =>
    obtain ⟨hmem, hhash⟩ := findHash?_eq_some_iff.1 hother
    rw [if_neg (hname other hmem)]
    constructor
    · intro h
      exact absurd h Outcome.error_ne_ok
    · rintro ⟨hfree, -⟩
      exact absurd hhash (hfree other hmem)
  · next hnone =>
    have hfree : ∀ u ∈ r.templates, u.hash ≠ t.hash := fun u hu => by
      simpa using List.find?_eq_none.1 hnone u hu
    have hkept : r.templates.filter (·.name != t.name) = r.templates :=
      List.filter_eq_self.2 fun u hu => by simpa using hname u hu
    constructor
    · intro h
      obtain rfl := Except.ok.inj h
      exact ⟨hfree, congrArg (· ++ [t]) hkept⟩
    · rintro ⟨-, h⟩
      refine congrArg Except.ok (eq_of_templates_eq ?_)
      rw [h]
      exact congrArg (· ++ [t]) hkept

/-- A program is added as the template with its name, if the registry takes that. -/
theorem add_eq_ok_iff {named : String × Program} :
    r.add named = .ok r' ↔ ∃ t : Template, t.named = named ∧ r.insert t = .ok r' := by
  rw [add]
  split
  · next hash hhash =>
    constructor
    · intro h
      exact ⟨_, rfl, h⟩
    · rintro ⟨t, rfl, h⟩
      obtain rfl := Except.ok.inj (t.hash_eq.symm.trans hhash)
      exact h
  · next cause hcause =>
    constructor
    · intro h
      exact absurd h Outcome.error_ne_ok
    · rintro ⟨t, rfl, -⟩
      exact absurd (t.hash_eq.symm.trans hcause) Outcome.ok_ne_error

/-- The first templates of a registry are a registry. -/
theorem exists_of_prefix {ts us : List Template} (h : r.templates = ts ++ us) :
    ∃ r' : Registry, r'.templates = ts := by
  have hsub : ts.Sublist r.templates := h ▸ List.sublist_append_left ts us
  exact ⟨⟨ts, r.names_nodup.sublist (hsub.map _), r.hashes_nodup.sublist (hsub.map _)⟩, rfl⟩

/-- **What a run over named programs has added**: all of them, in order.  The run goes through for
every registry that can hold them. -/
theorem foldlM_add_eq_ok_iff : ∀ {programs : List (String × Program)} {r : Registry},
    (r.templates.map (·.name) ++ programs.map (·.1)).Nodup →
      (programs.foldlM add r = .ok r' ↔
        r'.templates.map (·.named) = r.templates.map (·.named) ++ programs)
  | [], r, _ => by
    rw [List.foldlM_nil, Outcome.pure_eq_ok_iff, List.append_nil,
      Template.named_injective.list_map.eq_iff]
    exact ⟨fun h => congrArg templates h.symm, fun h => (eq_of_templates_eq h).symm⟩
  | e :: rest, r, hnames => by
    have hnew : ∀ u ∈ r.templates, u.name ≠ e.1 := fun u hu =>
      (List.nodup_append.1 hnames).2.2 _ (List.mem_map_of_mem hu) _ List.mem_cons_self
    rw [List.map_cons, List.append_cons] at hnames
    rw [List.foldlM_cons, Outcome.bind_eq_ok_iff]
    constructor
    · rintro ⟨next, hadd, hrest⟩
      obtain ⟨t, rfl, hinsert⟩ := add_eq_ok_iff.1 hadd
      obtain ⟨-, hnext⟩ := (insert_eq_ok_iff hnew).1 hinsert
      have hnames' : (next.templates.map (·.name) ++ rest.map (·.1)).Nodup := by
        rwa [hnext, List.map_append]
      rw [(foldlM_add_eq_ok_iff hnames').1 hrest, hnext, List.map_append, List.append_assoc]
      rfl
    · intro h
      obtain ⟨before, after, hsplit, hbefore, hafter⟩ := List.map_eq_append_iff.1 h
      obtain rfl := Template.named_injective.list_map hbefore
      obtain ⟨t, later, rfl, rfl, rfl⟩ := List.map_eq_cons_iff.1 hafter
      rw [List.append_cons] at hsplit
      obtain ⟨next, hnext⟩ := exists_of_prefix hsplit
      have hhashes := next.hashes_nodup
      rw [hnext, List.map_append, List.nodup_append] at hhashes
      have hfree : ∀ u ∈ r.templates, u.hash ≠ t.hash := fun u hu =>
        hhashes.2.2 _ (List.mem_map_of_mem hu) _ List.mem_cons_self
      have hnames' : (next.templates.map (·.name) ++ (later.map (·.named)).map (·.1)).Nodup := by
        rwa [hnext, List.map_append]
      refine ⟨next, add_eq_ok_iff.2 ⟨t, rfl, (insert_eq_ok_iff hnew).2 ⟨hfree, hnext⟩⟩, ?_⟩
      rw [foldlM_add_eq_ok_iff hnames', hsplit, hnext, List.map_append]

/-- **Programs under different names make the registry that lists them**, if there is one. -/
theorem ofPrograms_eq_ok_iff {programs : List (String × Program)}
    (hnames : (programs.map (·.1)).Nodup) :
    ofPrograms programs = .ok r ↔ r.templates.map (·.named) = programs :=
  foldlM_add_eq_ok_iff (r := empty) hnames

end Registry

/-! ## Texts -/

/-- The template has the name of a pair and the program that its value gives. -/
def Template.IsGiven (e : String × Value) (t : Template) : Prop :=
  t.name = e.1 ∧ Registry.programOf e.1 e.2 = .ok t.program

theorem Template.isGiven_text {e : String × String} {t : Template} :
    IsGiven (e.1, .text e.2) t ↔ t.name = e.1 ∧ Program.ofHex e.2 = .ok t.program := by
  rw [IsGiven, Registry.programOf, Outcome.mapError_eq_ok_iff]

namespace Registry

variable {r r' : Registry}

/-- **Named values make the registry that lists the programs they give**, if there is one. -/
theorem ofTexts_eq_ok_iff {pairs : List (String × Value)} :
    ofTexts pairs = .ok r ↔ List.Forall₂ Template.IsGiven (lastWins pairs) r.templates := by
  have hstep {e : String × Value} {named : String × Program} :
      (do return (e.1, ← programOf e.1 e.2)) = Except.ok named ↔
        named.1 = e.1 ∧ programOf e.1 e.2 = .ok named.2 := by
    rw [Outcome.bind_eq_ok_iff]
    constructor
    · rintro ⟨p, hp, h⟩
      obtain rfl := Outcome.pure_eq_ok_iff.1 h
      exact ⟨rfl, hp⟩
    · rintro ⟨hname, hp⟩
      exact ⟨_, hp, congrArg Except.ok (Prod.ext hname.symm rfl)⟩
  rw [ofTexts, Outcome.bind_eq_ok_iff]
  simp only [Outcome.mapM_eq_ok_iff, hstep]
  constructor
  · rintro ⟨programs, hread, h⟩
    have hnames : (programs.map (·.1)).Nodup := by
      rw [← Outcome.map_eq_of_forall₂ (hread.imp fun _ _ h => h.1.symm)]
      exact nodup_lastWins pairs
    obtain rfl := (ofPrograms_eq_ok_iff hnames).1 h
    rw [List.forall₂_map_right_iff] at hread
    exact hread
  · intro h
    have hnames : ((r.templates.map (·.named)).map (·.1)).Nodup := by
      rw [List.map_map]
      exact r.names_nodup
    exact ⟨_, List.forall₂_map_right_iff.2 h, (ofPrograms_eq_ok_iff hnames).2 rfl⟩

/-- Named texts as they are given. -/
def texts (pairs : List (String × String)) : List (String × Value) :=
  pairs.map fun e => (e.1, .text e.2)

/-- The templates are the ones that the texts spell, one for each pair. -/
def Spelled (pairs : List (String × String)) (ts : List Template) : Prop :=
  List.Forall₂ (fun e t => t.name = e.1 ∧ Program.ofHex e.2 = .ok t.program) pairs ts

variable {pairs pairs' : List (String × String)} {ts : List Template}

/-- **Texts under different names make the registry of what they spell**, one template for each in
their order. -/
theorem ofTexts_texts_eq_ok_iff (hnames : (pairs.map (·.1)).Nodup) :
    ofTexts (texts pairs) = .ok r ↔ Spelled pairs r.templates := by
  have hkept : (texts pairs).map (·.1) = pairs.map (·.1) := List.map_map
  rw [ofTexts_eq_ok_iff, lastWins_eq_self (hkept ▸ hnames), texts, List.forall₂_map_left_iff]
  simp only [Template.isGiven_text]
  rfl

theorem Spelled.map_name (h : Spelled pairs ts) : ts.map (·.name) = pairs.map (·.1) :=
  (Outcome.map_eq_of_forall₂ (h.imp fun _ _ h => h.1.symm)).symm

theorem Spelled.exists_template (h : Spelled pairs ts) {e : String × String} (he : e ∈ pairs) :
    ∃ t ∈ ts, t.name = e.1 ∧ Program.ofHex e.2 = .ok t.program :=
  Outcome.exists_of_mem_forall₂ h.flip he

/-! ## What makes a registry -/

/-- The texts spell programs within the depth limit, and no two names have programs of one hash. -/
structure Admissible (pairs : List (String × String)) : Prop where
  readable : ∀ e ∈ pairs, ∃ p, Program.ofHex e.2 = .ok p ∧ p.depth ≤ depthLimit
  distinct : ∀ e ∈ pairs, ∀ e' ∈ pairs, e.1 ≠ e'.1 → ∀ p p' hash, Program.ofHex e.2 = .ok p →
    Program.ofHex e'.2 = .ok p' → p.treeHash = .ok hash → p'.treeHash ≠ .ok hash

/-- **What a registry holds is admissible**: its programs have hashes, and no two the same. -/
theorem Spelled.admissible (h : Spelled pairs r.templates) : Admissible pairs := by
  refine ⟨fun e he => ?_, fun e he e' he' hne p p' hash hp hp' hhash hhash' => ?_⟩
  · obtain ⟨t, -, -, hp⟩ := h.exists_template he
    exact ⟨t.program, hp, (Program.treeHash_eq_ok_iff.1 t.hash_eq).1⟩
  · obtain ⟨t, ht, hname, hprogram⟩ := h.exists_template he
    obtain ⟨u, hu, hname', hprogram'⟩ := h.exists_template he'
    obtain rfl := Except.ok.inj (hp.symm.trans hprogram)
    obtain rfl := Except.ok.inj (hp'.symm.trans hprogram')
    have hshared : t.hash = u.hash :=
      (Except.ok.inj (t.hash_eq.symm.trans hhash)).trans
        (Except.ok.inj (u.hash_eq.symm.trans hhash')).symm
    obtain rfl := List.inj_on_of_nodup_map r.hashes_nodup ht hu hshared
    exact hne (hname.symm.trans hname')

/-- **Admissible texts make a registry**: each spells a template, and neither names nor hashes
clash. -/
theorem Admissible.exists_spelled (h : Admissible pairs) (hnames : (pairs.map (·.1)).Nodup) :
    ∃ r : Registry, Spelled pairs r.templates := by
  obtain ⟨ts, hts⟩ : ∃ ts, Spelled pairs ts := Outcome.exists_forall₂ fun e he => by
    obtain ⟨p, hp, hdepth⟩ := h.readable e he
    exact ⟨.ofProgram e.1 p hdepth, rfl, hp⟩
  have hnodup : (ts.map (·.name)).Nodup := hts.map_name ▸ hnames
  have hhash : ∀ t ∈ ts, ∀ u ∈ ts, t.hash = u.hash → t = u := by
    intro t ht u hu hshared
    obtain ⟨e, he, hname, hprogram⟩ := Outcome.exists_of_mem_forall₂ hts ht
    obtain ⟨e', he', hname', hprogram'⟩ := Outcome.exists_of_mem_forall₂ hts hu
    refine List.inj_on_of_nodup_map hnodup ht hu (by_contra fun hne => ?_)
    rw [hname, hname'] at hne
    exact h.distinct e he e' he' hne _ _ _ hprogram hprogram' t.hash_eq (hshared ▸ u.hash_eq)
  exact ⟨⟨ts, hnodup, hnodup.of_map.map_on hhash⟩, hts⟩

/-! ## What a registry answers -/

/-- Names and hashes lead to each other, and the names are those of the pairs, each with the program
of its text and the hash of that program. -/
structure Lists (r : Registry) (pairs : List (String × String)) : Prop where
  nameOf?_iff (name : String) (hash : Bytes) :
    r.nameOf? hash = some name ↔ ∃ t, r.get name = .ok t ∧ t.hash = hash
  get_given : ∀ e ∈ pairs, ∃ t, r.get e.1 = .ok t ∧ Program.ofHex e.2 = .ok t.program ∧
    t.program.treeHash = .ok t.hash
  get_unknown : ∀ name ∉ pairs.map (·.1), r.get name = .error (.unknown name)
  contains_iff (name : String) : r.contains name = true ↔ name ∈ pairs.map (·.1)
  names_perm : r.names.Perm (pairs.map (·.1))
  size_eq : r.size = pairs.length

theorem findName?_eq_none_iff {name : String} :
    r.findName? name = none ↔ name ∉ r.templates.map (·.name) := by
  rw [findName?, List.find?_eq_none]
  simp only [beq_iff_eq, List.mem_map, not_exists, not_and]

/-- **A registry answers with what was spelled**, from names and from hashes. -/
theorem lists_of_spelled (h : Spelled pairs r.templates) : r.Lists pairs where
  nameOf?_iff name hash := by
    rw [nameOf?_eq_some_iff]
    simp only [get_eq_ok_iff, Template.hash_eq_merkle, and_assoc]
  get_given e he := by
    obtain ⟨t, ht, hname, hprogram⟩ := h.exists_template he
    exact ⟨t, get_eq_ok_iff.2 ⟨ht, hname⟩, hprogram, t.hash_eq⟩
  get_unknown name hname := by
    rw [get, findName?_eq_none_iff.2 (h.map_name ▸ hname)]
  contains_iff name := by
    rw [← h.map_name, contains, ← not_iff_not, ← findName?_eq_none_iff, Bool.not_eq_true,
      Option.isSome_eq_false_iff, Option.isNone_iff_eq_none]
  names_perm := by
    rw [← h.map_name]
    exact List.mergeSort_perm _ _
  size_eq := by
    rw [size, ← List.length_map Template.name, h.map_name, List.length_map]

/-- Two registries that no query tells apart. -/
structure SameAnswers (r r' : Registry) : Prop where
  nameOf?_eq (hash : Bytes) : r.nameOf? hash = r'.nameOf? hash
  get_eq (name : String) : r.get name = r'.get name
  contains_eq (name : String) : r.contains name = r'.contains name
  names_eq : r.names = r'.names
  size_eq : r.size = r'.size

/-- **The order of the templates shows in no answer.** -/
theorem sameAnswers_of_perm (h : r.templates.Perm r'.templates) : r.SameAnswers r' := by
  have hname (name : String) : r.findName? name = r'.findName? name := Option.ext fun t => by
    rw [findName?_eq_some_iff, findName?_eq_some_iff, h.mem_iff]
  have hhash (hash : Bytes) : r.findHash? hash = r'.findHash? hash := Option.ext fun t => by
    rw [findHash?_eq_some_iff, findHash?_eq_some_iff, h.mem_iff]
  exact {
    nameOf?_eq := fun hash => by rw [nameOf?, nameOf?, hhash]
    get_eq := fun name => by rw [get, get, hname]
    contains_eq := fun name => by rw [contains, contains, hname]
    names_eq := Order.mergeSort_eq_of_perm (fun _ _ _ => Order.atMost_trans _ _ _ _)
      (fun _ _ => Order.atMost_total _ _ _)
      (fun s _ t _ => Order.atMost_toList_antisymm s t) (h.map _)
    size_eq := h.length_eq }

/-- **Which texts make a registry, and what it answers.**  Texts under different names make one
exactly if they spell programs with tree hashes that are different under different names.  It then
lists the given names with the given programs, looked up by name and by hash alike, and the order
in which they were given shows in no answer. -/
theorem ofTexts_invariant (hnames : (pairs.map (·.1)).Nodup) :
    ((∃ r, ofTexts (texts pairs) = .ok r) ↔ Admissible pairs) ∧
    ∀ r, ofTexts (texts pairs) = .ok r → r.Lists pairs ∧
      ∀ pairs', pairs'.Perm pairs →
        ∃ r', ofTexts (texts pairs') = .ok r' ∧ r'.SameAnswers r := by
  simp only [ofTexts_texts_eq_ok_iff hnames]
  refine ⟨⟨?_, fun h => h.exists_spelled hnames⟩, fun r h => ⟨lists_of_spelled h, ?_⟩⟩
  · rintro ⟨r, h⟩
    exact h.admissible
  · intro pairs' hperm
    obtain ⟨ts, hts, hts'⟩ := List.perm_comp_forall₂ hperm h
    have hnames' : (pairs'.map (·.1)).Nodup := (hperm.map _).nodup_iff.2 hnames
    let r' : Registry := ⟨ts, (hts'.map _).nodup_iff.2 r.names_nodup,
      (hts'.map _).nodup_iff.2 r.hashes_nodup⟩
    exact ⟨r', (ofTexts_texts_eq_ok_iff hnames').2 hts, sameAnswers_of_perm hts'⟩

/-! ## Two atoms -/

/-- Two atoms under their names. -/
def atomTexts : List (String × String) := [("seven", "07"), ("eight", "0x08")]

/-- One atom, spelled in two ways, under two names. -/
def repeatedTexts : List (String × String) := [("seven", "07"), ("again", "0x07")]

theorem admissible_atomTexts : Admissible atomTexts := by
  have hseven : Program.ofHex "07" = .ok (.atom [7]) := by cbv
  have height : Program.ofHex "0x08" = .ok (.atom [8]) := by cbv
  have hne : (Program.atom [7]).merkle ≠ (Program.atom [8]).merkle := by
    rw [← Program.computedHash_eq_merkle, ← Program.computedHash_eq_merkle]
    decide +kernel
  refine ⟨fun e he => ?_, fun e he e' he' hnames p p' hash hp hp' hhash hhash' => ?_⟩
  · rcases List.mem_pair.1 he with rfl | rfl
    · exact ⟨_, hseven, by decide⟩
    · exact ⟨_, height, by decide⟩
  · have hmerkle := (Program.treeHash_eq_ok_iff.1 hhash).2
    have hmerkle' := (Program.treeHash_eq_ok_iff.1 hhash').2
    rcases List.mem_pair.1 he with rfl | rfl <;> rcases List.mem_pair.1 he' with rfl | rfl
    · exact hnames rfl
    · obtain rfl := Except.ok.inj (hseven.symm.trans hp)
      obtain rfl := Except.ok.inj (height.symm.trans hp')
      exact hne (hmerkle.trans hmerkle'.symm)
    · obtain rfl := Except.ok.inj (height.symm.trans hp)
      obtain rfl := Except.ok.inj (hseven.symm.trans hp')
      exact hne (hmerkle'.trans hmerkle.symm)
    · exact hnames rfl

/-- **One atom under two names makes none**, though its texts differ. -/
theorem not_admissible_repeatedTexts : ¬ Admissible repeatedTexts := by
  intro h
  have hfirst : Program.ofHex "07" = .ok (.atom [7]) := by cbv
  have hsecond : Program.ofHex "0x07" = .ok (.atom [7]) := by cbv
  have hhash : (Program.atom [7]).treeHash = .ok (Program.atom [7]).merkle :=
    Program.treeHash_eq_ok_iff.2 ⟨by decide, rfl⟩
  exact h.distinct _ List.mem_cons_self _ (List.mem_cons_of_mem _ List.mem_cons_self) (by decide)
    _ _ _ hfirst hsecond hhash hhash

/-- Two atoms make a registry in either order; one atom under two names makes none. -/
theorem ofTexts_invariant_atomTexts :
    ((atomTexts.map (·.1)).Nodup ∧ (repeatedTexts.map (·.1)).Nodup) ∧
      (∃ r r', ofTexts (texts atomTexts) = .ok r ∧ ofTexts (texts atomTexts.reverse) = .ok r' ∧
        r.Lists atomTexts ∧ r'.SameAnswers r) ∧
      ¬ ∃ r, ofTexts (texts repeatedTexts) = .ok r := by
  have hatoms : (atomTexts.map (·.1)).Nodup := by decide
  have hrepeated : (repeatedTexts.map (·.1)).Nodup := by decide
  obtain ⟨r, hr⟩ := (ofTexts_invariant hatoms).1.2 admissible_atomTexts
  obtain ⟨hlists, hperm⟩ := (ofTexts_invariant hatoms).2 r hr
  obtain ⟨r', hr', hsame⟩ := hperm _ (List.reverse_perm atomTexts)
  exact ⟨⟨hatoms, hrepeated⟩, ⟨r, r', hr, hr', hlists, hsame⟩,
    fun h => not_admissible_repeatedTexts ((ofTexts_invariant hrepeated).1.1 h)⟩

end Registry

end CoinPuzzles
