import CoinPuzzles.Order.Lexicographic
import CoinPuzzles.Program.TreeHash
import CoinPuzzles.Value.Basic

/-!
# Template/Registry — named programs that are recognised by their hash

A registry holds programs under pairwise different names, with pairwise different tree hashes.  Both
conditions are part of the type, so a name has one program (`findName?_eq_some_iff`) and a hash has
one name (`findHash?_eq_some_iff`).
-/

namespace CoinPuzzles

/-- A named program and its tree hash. -/
structure Template where
  name : String
  program : Program
  hash : Bytes
  hash_eq : program.treeHash = .ok hash

/-- Why texts make no registry, or a registry has no answer. -/
inductive RegistryError where
  /-- A program has no tree hash. -/
  | unhashable (cause : ProgramError)
  /-- Two names have programs of one hash. -/
  | sharedHash (first second : String) (hash : Bytes)
  /-- The program of a name is not given as a text. -/
  | notText (name : String)
  /-- The program of a name is given as a text that spells none. -/
  | notBytecode (name : String) (cause : ProgramError)
  /-- The registry does not have the name. -/
  | unknown (name : String)
deriving DecidableEq

/-- The wording of a refusal. -/
def RegistryError.message : RegistryError → String
  | .unhashable cause => cause.message
  | .sharedHash first second hash =>
    "Templates " ++ first ++ " and " ++ second ++ " share hash " ++ Bytes.toMarkedHex hash
  | .notText name => "Template " ++ name ++ " must be a hex string"
  | .notBytecode name cause => "Template " ++ name ++ " is not valid bytecode: " ++ cause.message
  | .unknown name => "Unknown template: " ++ name

/-- Templates with pairwise different names and hashes, in the order they were added. -/
structure Registry where
  templates : List Template
  names_nodup : (templates.map (·.name)).Nodup
  hashes_nodup : (templates.map (·.hash)).Nodup

/-- The pairs with one more, which takes the place of one of the same name. -/
def setPair {α : Type} (name : String) (v : α) : List (String × α) → List (String × α)
  | [] => [(name, v)]
  | e :: rest => if e.1 = name then (name, v) :: rest else e :: setPair name v rest

/-- Pairs with pairwise different names: a name that occurs again keeps its first place and takes
its last value. -/
def lastWins {α : Type} (pairs : List (String × α)) : List (String × α) :=
  pairs.foldl (fun acc e => setPair e.1 e.2 acc) []

theorem names_setPair {α : Type} (name : String) (v : α) : ∀ pairs : List (String × α),
    (setPair name v pairs).map (·.1) =
      if name ∈ pairs.map (·.1) then pairs.map (·.1) else pairs.map (·.1) ++ [name]
  | [] => rfl
  | e :: rest => by
    rw [setPair]
    split
    · next h => simp [h]
    · next h =>
      have h' : ¬name = e.1 := fun e => h e.symm
      simp only [List.map_cons, names_setPair name v rest, List.mem_cons, h', false_or]
      split <;> rfl

theorem nodup_setPair {α : Type} (name : String) (v : α) {pairs : List (String × α)}
    (h : (pairs.map (·.1)).Nodup) : ((setPair name v pairs).map (·.1)).Nodup := by
  rw [names_setPair]
  split
  · exact h
  · next hn =>
    refine List.nodup_append.2 ⟨h, by simp, fun a ha b hb => ?_⟩
    rintro rfl
    exact hn ((List.mem_singleton.1 hb) ▸ ha)

/-- **The names of the pairs are pairwise different.** -/
theorem nodup_lastWins {α : Type} (pairs : List (String × α)) :
    ((lastWins pairs).map (·.1)).Nodup := by
  suffices ∀ acc : List (String × α), (acc.map (·.1)).Nodup →
      ((pairs.foldl (fun acc e => setPair e.1 e.2 acc) acc).map (·.1)).Nodup from
    this [] List.nodup_nil
  induction pairs with
  | nil => exact fun _ h => h
  | cons e rest ih => exact fun acc h => ih _ (nodup_setPair e.1 e.2 h)

/-- In a list with pairwise different keys a key has one entry. -/
theorem find?_eq_some_iff_of_nodup {α κ : Type} [BEq κ] [LawfulBEq κ] (key : α → κ) {k : κ}
    {x : α} :
    ∀ {l : List α}, (l.map key).Nodup → (l.find? (key · == k) = some x ↔ x ∈ l ∧ key x = k)
  | [], _ => by simp
  | y :: rest, h => by
    obtain ⟨hy, h⟩ := List.nodup_cons.1 h
    by_cases hk : key y = k
    · have : ∀ z ∈ rest, key z ≠ k := fun z hz e => hy (hk ▸ e ▸ List.mem_map_of_mem hz)
      rw [List.find?_cons_of_pos (by simpa using hk)]
      grind
    · rw [List.find?_cons_of_neg (by simpa using hk), find?_eq_some_iff_of_nodup key h]
      grind

namespace Registry

/-- The registry without templates. -/
def empty : Registry := ⟨[], List.nodup_nil, List.nodup_nil⟩

/-- The template whose program has a hash. -/
def findHash? (r : Registry) (hash : Bytes) : Option Template :=
  r.templates.find? (·.hash == hash)

/-- The template of a name. -/
def findName? (r : Registry) (name : String) : Option Template :=
  r.templates.find? (·.name == name)

/-- **A name has one template.** -/
theorem findName?_eq_some_iff {r : Registry} {name : String} {t : Template} :
    r.findName? name = some t ↔ t ∈ r.templates ∧ t.name = name :=
  find?_eq_some_iff_of_nodup Template.name r.names_nodup

/-- **A hash has one template.** -/
theorem findHash?_eq_some_iff {r : Registry} {hash : Bytes} {t : Template} :
    r.findHash? hash = some t ↔ t ∈ r.templates ∧ t.hash = hash :=
  find?_eq_some_iff_of_nodup Template.hash r.hashes_nodup

/-- The name under which a hash is registered. -/
def nameOf? (r : Registry) (hash : Bytes) : Option String := (r.findHash? hash).map (·.name)

/-- The template of a name that the registry must have. -/
def get (r : Registry) (name : String) : Except RegistryError Template :=
  match r.findName? name with
  | some t => .ok t
  | none => .error (.unknown name)

/-- The number of templates. -/
def size (r : Registry) : Nat := r.templates.length

/-- Whether a name is registered. -/
def contains (r : Registry) (name : String) : Bool := (r.findName? name).isSome

/-- The names in ascending order. -/
def names (r : Registry) : List String :=
  (r.templates.map (·.name)).mergeSort fun a b =>
    Order.atMost Char.toNat a.toList b.toList

/-- The registry with one more template, which takes the place of one of the same name. -/
def insert (r : Registry) (t : Template) : Except RegistryError Registry :=
  match h : r.findHash? t.hash with
  | some other =>
    if other.name = t.name then .ok r else .error (.sharedHash other.name t.name t.hash)
  | none => .ok {
      templates := r.templates.filter (·.name != t.name) ++ [t]
      names_nodup := by
        rw [List.map_append, List.nodup_append]
        refine ⟨r.names_nodup.sublist (List.filter_sublist.map _), by simp, ?_⟩
        intro a ha b hb
        obtain ⟨u, hu, rfl⟩ := List.mem_map.1 ha
        obtain rfl : b = t.name := by simpa using hb
        simpa using (List.mem_filter.1 hu).2
      hashes_nodup := by
        rw [List.map_append, List.nodup_append]
        refine ⟨r.hashes_nodup.sublist (List.filter_sublist.map _), by simp, ?_⟩
        intro a ha b hb
        obtain ⟨u, hu, rfl⟩ := List.mem_map.1 ha
        obtain rfl : b = t.hash := by simpa using hb
        simpa using List.find?_eq_none.1 h u (List.mem_filter.1 hu).1 }

/-- Adds a named program. -/
def add (r : Registry) (named : String × Program) : Except RegistryError Registry :=
  match h : named.2.treeHash with
  | .ok hash => r.insert ⟨named.1, named.2, hash, h⟩
  | .error cause => .error (.unhashable cause)

/-- The registry of named programs, added in order. -/
def ofPrograms (programs : List (String × Program)) : Except RegistryError Registry :=
  programs.foldlM add empty

/-- The program that a value gives for a name. -/
def programOf (name : String) : Value → Except RegistryError Program
  | .text s => (Program.ofHex s).mapError (.notBytecode name)
  | _ => .error (.notText name)

/-- The registry of named texts.  All texts are read before the first program is added. -/
def ofTexts (pairs : List (String × Value)) : Except RegistryError Registry := do
  let programs ← (lastWins pairs).mapM fun (name, v) => return (name, ← programOf name v)
  ofPrograms programs

end Registry

end CoinPuzzles
