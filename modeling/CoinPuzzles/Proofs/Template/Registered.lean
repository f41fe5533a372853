import CoinPuzzles.Proofs.Program.HashBinding
import CoinPuzzles.Template.Registry

/-!
# Proofs/Template/Registered — what the hash of a program says about a registry

A registry is asked by hash.  As long as no messages collide, its answer is about the program
itself: `nameOf?_eq_none_iff` and `exists_template_of_nameOf?`.
-/

namespace CoinPuzzles

/-- A named program within the depth limit, with its hash. -/
def Template.ofProgram (name : String) (p : Program) (h : p.depth ≤ Program.depthLimit) :
    Template :=
  ⟨name, p, p.merkle, Program.treeHash_eq_ok_iff.2 ⟨h, rfl⟩⟩

theorem Template.hash_eq_merkle (t : Template) : t.hash = t.program.merkle :=
  (Program.treeHash_eq_ok_iff.1 t.hash_eq).2.symm

namespace Registry

/-- The registry of one template. -/
def single (t : Template) : Registry := ⟨[t], by simp, by simp⟩

/-- The program is one of the registered ones. -/
def Registers (r : Registry) (p : Program) : Prop := ∃ t ∈ r.templates, t.program = p

/-- The messages that are hashed for the registered programs. -/
def messages (r : Registry) : List Bytes := r.templates.flatMap fun t => t.program.messages

theorem messages_subset {r : Registry} {t : Template} (ht : t ∈ r.templates) :
    t.program.messages ⊆ r.messages :=
  fun _ hm => List.mem_flatMap.2 ⟨t, ht, hm⟩

/-- **A program is registered under one name.** -/
theorem eq_of_program_eq {r : Registry} {t u : Template} (ht : t ∈ r.templates)
    (hu : u ∈ r.templates) (h : t.program = u.program) : t = u := by
  have hhash : u.hash = t.hash := by
    rw [t.hash_eq_merkle, u.hash_eq_merkle, h]
  have hfound := findHash?_eq_some_iff.2 ⟨hu, hhash⟩
  rw [findHash?_eq_some_iff.2 ⟨ht, rfl⟩] at hfound
  exact Option.some.inj hfound

theorem get_eq_ok_iff {r : Registry} {name : String} {t : Template} :
    r.get name = .ok t ↔ t ∈ r.templates ∧ t.name = name := by
  rw [← findName?_eq_some_iff, get]
  cases r.findName? name with
  | none => simp
  | some u => rw [Except.ok.injEq, Option.some.injEq]

theorem nameOf?_eq_some_iff {r : Registry} {hash : Bytes} {name : String} :
    r.nameOf? hash = some name ↔
      ∃ t ∈ r.templates, t.name = name ∧ t.program.merkle = hash := by
  rw [nameOf?, Option.map_eq_some_iff]
  constructor
  · rintro ⟨t, ht, hname⟩
    obtain ⟨hmem, hhash⟩ := findHash?_eq_some_iff.1 ht
    exact ⟨t, hmem, hname, t.hash_eq_merkle ▸ hhash⟩
  · rintro ⟨t, hmem, hname, hhash⟩
    exact ⟨t, findHash?_eq_some_iff.2 ⟨hmem, t.hash_eq_merkle.trans hhash⟩, hname⟩

/-- A registered program is found under its name. -/
theorem nameOf?_program {r : Registry} {t : Template} (ht : t ∈ r.templates) :
    r.nameOf? t.program.merkle = some t.name :=
  nameOf?_eq_some_iff.2 ⟨t, ht, rfl, rfl⟩

/-- **A program whose hash is known is registered under the name that is found.** -/
theorem exists_template_of_nameOf? {r : Registry} {p : Program} {name : String}
    (hfree : Sha256.CollisionFree (p.messages ++ r.messages)) (h : r.nameOf? p.merkle = some name) :
    ∃ t ∈ r.templates, t.name = name ∧ t.program = p := by
  obtain ⟨t, ht, hname, hhash⟩ := nameOf?_eq_some_iff.1 h
  have hpair := hfree.append_mono (List.Subset.refl _) (messages_subset ht)
  exact ⟨t, ht, hname, (Program.eq_of_merkle_eq hpair hhash.symm).symm⟩

/-- **A hash is unknown exactly if its program is not registered.** -/
theorem nameOf?_eq_none_iff {r : Registry} {p : Program}
    (hfree : Sha256.CollisionFree (p.messages ++ r.messages)) :
    r.nameOf? p.merkle = none ↔ ¬ r.Registers p := by
  constructor
  · rintro hnone ⟨t, ht, rfl⟩
    exact absurd ((nameOf?_program ht).symm.trans hnone) (by simp)
  · intro hnot
    cases hname : r.nameOf? p.merkle with
    | none => rfl
    | some name =>
      obtain ⟨t, ht, -, hprogram⟩ := exists_template_of_nameOf? hfree hname
      exact absurd ⟨t, ht, hprogram⟩ hnot

end Registry

end CoinPuzzles
