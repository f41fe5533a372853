import CoinPuzzles.Proofs.Program.HashEvaluation
import CoinPuzzles.Proofs.Puzzle.Recognition
import CoinPuzzles.Puzzle.KeyParam

/-!
# Proofs/Puzzle/KeyParameter — the programs that a parameter identifies

A nesting of templates is looked for in the node of a program; here it is said of the program.

* `Node.keyParam?_eq_some_iff` — a node has a parameter exactly if one of four paths leads to a
  leaf.
* `follow_recognise_eq_some_iff` — a path leads to a leaf exactly if it leads down the bound
  arguments of the program to a part of it that is not recognised.
* `keyParam?_simplify` — so the parameter of a program is the one that its nesting says it is.
-/

namespace CoinPuzzles

open Program (depthLimit)

variable {r : Registry} {p : Program} {name hex : String}

/-! ## What a registry makes of a program -/

namespace Registry

/-- The program binds the arguments into the template of a name, and is not registered itself. -/
def Applies (r : Registry) (p : Program) (name : String) (args : List Program) : Prop :=
  ¬ r.Registers p ∧ ∃ t, r.get name = .ok t ∧ p.uncurry? = some (t.program, args)

/-- The program is not registered, and binds no arguments into a registered one. -/
def IsUnknown (r : Registry) (p : Program) : Prop :=
  ¬ r.Registers p ∧ ∀ module args, p.uncurry? = some (module, args) → ¬ r.Registers module

/-- Going down from the first program by bound arguments leads to the second: at each step the
program applies the template of a name, and an argument is taken. -/
def Leads (r : Registry) : List (String × Nat) → Program → Program → Prop
  | [], p, q => p = q
  | (name, index) :: steps, p, q =>
    ∃ args a, r.Applies p name args ∧ args[index]? = some a ∧ r.Leads steps a q

theorem IsUnknown.not_applies {args : List Program} (h : r.IsUnknown p) :
    ¬ r.Applies p name args := by
  rintro ⟨-, t, ht, hshape⟩
  exact h.2 _ _ hshape ⟨t, (get_eq_ok_iff.1 ht).1, rfl⟩

/-- A program applies one template, to one list of arguments. -/
theorem Applies.unique {name' : String} {args args' : List Program} (h : r.Applies p name args)
    (h' : r.Applies p name' args') : name = name' ∧ args = args' := by
  obtain ⟨-, t, ht, hshape⟩ := h
  obtain ⟨-, u, hu, hshape'⟩ := h'
  obtain ⟨htmem, rfl⟩ := get_eq_ok_iff.1 ht
  obtain ⟨humem, rfl⟩ := get_eq_ok_iff.1 hu
  obtain ⟨hmodule, rfl⟩ := Prod.mk.inj (Option.some.inj (hshape.symm.trans hshape'))
  exact ⟨congrArg Template.name (eq_of_program_eq htmem humem hmodule), rfl⟩

/-- A bound argument is a part of the program. -/
theorem Applies.subtree {args : List Program} {a : Program} (h : r.Applies p name args)
    (ha : a ∈ args) : Program.Subtree a p := by
  obtain ⟨-, t, -, hshape⟩ := h
  rw [Program.uncurry?_eq_some_iff.1 hshape]
  exact Program.subtree_curry_arg t.program ha

end Registry

/-- **A program is recognised in one of three ways**: as a registered one, as a registered one with
arguments bound, or not at all. -/
theorem recognise_cases (r : Registry) (p : Program)
    (hfree : Sha256.CollisionFree (p.messages ++ r.messages)) :
    (r.Registers p ∧ ∃ name, recognise r p = .template name [] false) ∨
      (∃ name args, r.Applies p name args ∧
        recognise r p = .template name (args.map (recognise r)) true) ∨
      (r.IsUnknown p ∧ recognise r p = .raw p.toHex) := by
  cases hname : r.nameOf? p.merkle with
  | some name =>
    obtain ⟨t, ht, -, hprogram⟩ := Registry.exists_template_of_nameOf? hfree hname
    exact .inl ⟨⟨t, ht, hprogram⟩, name, recognise_registered hname⟩
  | none =>
    have hp := (Registry.nameOf?_eq_none_iff hfree).1 hname
    cases hshape : p.uncurry? with
    | none =>
      refine .inr (.inr ⟨⟨hp, fun module args h => ?_⟩, recognise_shapeless hname hshape⟩)
      exact absurd (hshape.symm.trans h) (by simp)
    | some found =>
      obtain ⟨module, args⟩ := found
      have hpart : Program.Subtree module p := by
        rw [Program.uncurry?_eq_some_iff.1 hshape]
        exact Program.subtree_curry_module module args
      have hfree := hpart.collisionFree hfree
      cases hmodule : r.nameOf? module.merkle with
      | none =>
        refine .inr (.inr ⟨⟨hp, fun module' args' h => ?_⟩,
          recognise_unknown_module hname hshape hmodule⟩)
        obtain ⟨rfl, rfl⟩ := Prod.mk.inj (Option.some.inj (hshape.symm.trans h))
        exact (Registry.nameOf?_eq_none_iff hfree).1 hmodule
      | some name =>
        obtain ⟨t, ht, rfl, rfl⟩ := Registry.exists_template_of_nameOf? hfree hmodule
        exact .inr (.inl ⟨t.name, args, ⟨hp, t, Registry.get_eq_ok_iff.2 ⟨ht, rfl⟩, hshape⟩,
          recognise_curried hname hshape hmodule⟩)

/-- **The arguments of a recognised template are the recognised arguments of the program.** -/
theorem recognise_arg?_iff {index : Nat} {a : Node}
    (hfree : Sha256.CollisionFree (p.messages ++ r.messages)) :
    (recognise r p).isTemplate name = true ∧ (recognise r p).arg? index = some a ↔
      ∃ args q, r.Applies p name args ∧ args[index]? = some q ∧ recognise r q = a := by
  rcases recognise_cases r p hfree with ⟨hp, found, hnode⟩ | ⟨found, args, happlies, hnode⟩ |
    ⟨hp, hnode⟩ <;> rw [hnode]
  · constructor
    · rintro ⟨-, h⟩
      cases h
    · rintro ⟨args, q, h, -⟩
      exact absurd hp h.1
  · rw [Node.isTemplate, Node.arg?, beq_iff_eq, List.getElem?_map, Option.map_eq_some_iff]
    constructor
    · rintro ⟨rfl, q, hq, ha⟩
      exact ⟨args, q, happlies, hq, ha⟩
    · rintro ⟨args', q, happlies', hq, ha⟩
      obtain ⟨rfl, rfl⟩ := happlies.unique happlies'
      exact ⟨rfl, q, hq, ha⟩
  · constructor
    · rintro ⟨h, -⟩
      cases h
    · rintro ⟨args, q, h, -⟩
      exact absurd h hp.not_applies

/-- **A program is a leaf exactly if it is not recognised**, and the leaf is its text. -/
theorem leaf?_recognise_eq_some_iff (hfree : Sha256.CollisionFree (p.messages ++ r.messages)) :
    (recognise r p).leaf? = some hex ↔ r.IsUnknown p ∧ hex = p.toHex := by
  rcases recognise_cases r p hfree with ⟨hp, found, hnode⟩ | ⟨found, args, happlies, hnode⟩ |
    ⟨hp, hnode⟩ <;> rw [hnode, Node.leaf?]
  · constructor
    · intro h
      cases h
    · rintro ⟨h, -⟩
      exact absurd hp h.1
  · constructor
    · intro h
      cases h
    · rintro ⟨h, -⟩
      exact absurd happlies h.not_applies
  · rw [Option.some.injEq, eq_comm]
    exact ⟨fun h => ⟨hp, h⟩, And.right⟩

/-! ## Paths -/

/-- A step leads on if the node is of its template and has its argument. -/
theorem Node.follow_cons_eq_some_iff {index : Nat} {steps : List (String × Nat)} {n : Node} :
    follow ((name, index) :: steps) n = some hex ↔
      ∃ a, (n.isTemplate name = true ∧ n.arg? index = some a) ∧ follow steps a = some hex := by
  rw [follow]
  split
  · next h =>
    rw [Option.bind_eq_some_iff]
    simp only [h, true_and]
  · next h =>
    simp only [h, false_and, exists_false, reduceCtorEq]

/-- **A path through the node of a program leads down the program.** -/
theorem follow_recognise_eq_some_iff : ∀ {steps : List (String × Nat)} {p : Program},
    Sha256.CollisionFree (p.messages ++ r.messages) →
      (Node.follow steps (recognise r p) = some hex ↔
        ∃ q, r.Leads steps p q ∧ r.IsUnknown q ∧ hex = q.toHex)
  | [], p, hfree => by
    rw [Node.follow, leaf?_recognise_eq_some_iff hfree]
    simp only [Registry.Leads, exists_eq_left']
  | (name, index) :: steps, p, hfree => by
    rw [Node.follow_cons_eq_some_iff]
    simp only [recognise_arg?_iff hfree, Registry.Leads]
    constructor
    · rintro ⟨_, ⟨args, a, happlies, ha, rfl⟩, h⟩
      have hsub := happlies.subtree (List.mem_of_getElem? ha)
      obtain ⟨q, hleads, hq⟩ := (follow_recognise_eq_some_iff (hsub.collisionFree hfree)).1 h
      exact ⟨q, ⟨args, a, happlies, ha, hleads⟩, hq⟩
    · rintro ⟨q, ⟨args, a, happlies, ha, hleads⟩, hq⟩
      have hsub := happlies.subtree (List.mem_of_getElem? ha)
      exact ⟨_, ⟨args, a, happlies, ha, rfl⟩,
        (follow_recognise_eq_some_iff (hsub.collisionFree hfree)).2 ⟨q, hleads, hq⟩⟩

/-- A node is the template of one name. -/
theorem Node.isTemplate_unique {n : Node} {name' : String} (h : n.isTemplate name = true)
    (h' : n.isTemplate name' = true) : name = name' := by
  cases n with
  | raw hex => cases h
  | template m args curried =>
    rw [isTemplate, beq_iff_eq] at h h'
    exact h.symm.trans h'

/-- **An asset has its id for a parameter**, its second argument in either version. -/
theorem Node.keyParam?_of_asset {n : Node} (hname : name = Template.catV1 ∨ name = Template.catV2)
    (h : n.isTemplate name = true) : n.keyParam? = follow [(name, 1)] n := by
  have hcat : (n.isTemplate Template.catV1 || n.isTemplate Template.catV2) = true := by
    rcases hname with rfl | rfl
    · rw [h, Bool.true_or]
    · rw [h, Bool.or_true]
  rw [keyParam?, if_pos hcat, follow, if_pos h]
  rfl

/-- **Of a singleton the inner template decides which path is followed.** -/
theorem Node.keyParam?_of_singleton {n inner : Node}
    (h : n.isTemplate Template.singletonTopLayer = true) (hinner : n.arg? 1 = some inner) :
    n.keyParam? =
      if inner.isTemplate Template.nftStateLayer then follow royaltyPath n
      else if inner.isTemplate Template.didInnerPuzzle then follow recoveryPath n
      else none := by
  have hcat : ¬ (n.isTemplate Template.catV1 || n.isTemplate Template.catV2) = true := by
    rw [Bool.or_eq_true]
    rintro (hcat | hcat)
    · exact absurd (isTemplate_unique h hcat) (by decide)
    · exact absurd (isTemplate_unique h hcat) (by decide)
  rw [keyParam?, if_neg hcat, if_pos h, hinner]

/-- **A node has a parameter exactly if one of four paths leads to a leaf.** -/
theorem Node.keyParam?_eq_some_iff {n : Node} :
    n.keyParam? = some hex ↔
      follow [(Template.catV1, 1)] n = some hex ∨ follow [(Template.catV2, 1)] n = some hex ∨
        follow royaltyPath n = some hex ∨ follow recoveryPath n = some hex := by
  constructor
  · intro h
    by_cases hv1 : n.isTemplate Template.catV1 = true
    · exact .inl (keyParam?_of_asset (.inl rfl) hv1 ▸ h)
    by_cases hv2 : n.isTemplate Template.catV2 = true
    · exact .inr (.inl (keyParam?_of_asset (.inr rfl) hv2 ▸ h))
    have hcat : ¬ (n.isTemplate Template.catV1 || n.isTemplate Template.catV2) = true := by
      rw [Bool.or_eq_true, not_or]
      exact ⟨hv1, hv2⟩
    rw [keyParam?, if_neg hcat] at h
    split at h
    · split at h
      · split at h
        · exact .inr (.inr (.inl h))
        · split at h
          · exact .inr (.inr (.inr h))
          · cases h
      · cases h
    · cases h
  · rintro (h | h | h | h)
    · obtain ⟨-, ⟨hname, -⟩, -⟩ := follow_cons_eq_some_iff.1 h
      exact (keyParam?_of_asset (.inl rfl) hname).trans h
    · obtain ⟨-, ⟨hname, -⟩, -⟩ := follow_cons_eq_some_iff.1 h
      exact (keyParam?_of_asset (.inr rfl) hname).trans h
    · obtain ⟨inner, ⟨hname, harg⟩, hrest⟩ := follow_cons_eq_some_iff.1 h
      obtain ⟨-, ⟨hinner, -⟩, -⟩ := follow_cons_eq_some_iff.1 hrest
      rw [keyParam?_of_singleton hname harg, if_pos hinner]
      exact h
    · obtain ⟨inner, ⟨hname, harg⟩, hrest⟩ := follow_cons_eq_some_iff.1 h
      obtain ⟨-, ⟨hinner, -⟩, -⟩ := follow_cons_eq_some_iff.1 hrest
      have hnft : ¬ inner.isTemplate Template.nftStateLayer = true := fun hnft =>
        absurd (isTemplate_unique hinner hnft) (by decide)
      rw [keyParam?_of_singleton hname harg, if_neg hnft, if_pos hinner]
      exact h

/-! ## The parameter of a program -/

/-- The text is the one that identifies the program: of an asset its tail hash, of a token its
royalty address, of an identity the hash of its recovery list. -/
inductive Registry.Identifies (r : Registry) : Program → String → Prop where
  | asset {p x : Program} {name : String} {xs : List Program}
    (hname : name = Template.catV1 ∨ name = Template.catV2) (hp : r.Applies p name xs)
    (hx : xs[1]? = some x) (hunknown : r.IsUnknown x) : r.Identifies p x.toHex
  | token {p state ownership transfer x : Program} {xs ys zs ws : List Program}
    (hp : r.Applies p Template.singletonTopLayer xs) (hstate : xs[1]? = some state)
    (hys : r.Applies state Template.nftStateLayer ys) (hownership : ys[3]? = some ownership)
    (hzs : r.Applies ownership Template.nftOwnershipLayer zs) (htransfer : zs[2]? = some transfer)
    (hws : r.Applies transfer Template.nftTransferProgram ws) (hx : ws[1]? = some x)
    (hunknown : r.IsUnknown x) : r.Identifies p x.toHex
  | identity {p inner x : Program} {xs ys : List Program}
    (hp : r.Applies p Template.singletonTopLayer xs) (hinner : xs[1]? = some inner)
    (hys : r.Applies inner Template.didInnerPuzzle ys) (hx : ys[1]? = some x)
    (hunknown : r.IsUnknown x) : r.Identifies p x.toHex

/-- The four paths lead to what identifies a program. -/
theorem Registry.identifies_iff :
    r.Identifies p hex ↔ ∃ steps ∈ [[(Template.catV1, 1)], [(Template.catV2, 1)],
      Node.royaltyPath, Node.recoveryPath], ∃ q, r.Leads steps p q ∧ r.IsUnknown q ∧
        hex = q.toHex := by
  simp only [List.mem_cons, List.not_mem_nil, or_false, exists_eq_or_imp, exists_eq_left]
  constructor
  · rintro (⟨rfl | rfl, hp, hx, hq⟩ | ⟨hp, hstate, hys, hownership, hzs, htransfer, hws, hx, hq⟩ |
      ⟨hp, hinner, hys, hx, hq⟩)
    · exact .inl ⟨_, ⟨_, _, hp, hx, rfl⟩, hq, rfl⟩
    · exact .inr (.inl ⟨_, ⟨_, _, hp, hx, rfl⟩, hq, rfl⟩)
    · exact .inr (.inr (.inl ⟨_, ⟨_, _, hp, hstate, _, _, hys, hownership, _, _, hzs, htransfer,
        _, _, hws, hx, rfl⟩, hq, rfl⟩))
    · exact .inr (.inr (.inr ⟨_, ⟨_, _, hp, hinner, _, _, hys, hx, rfl⟩, hq, rfl⟩))
  · rintro (⟨_, hleads, hq, rfl⟩ | ⟨_, hleads, hq, rfl⟩ | ⟨_, hleads, hq, rfl⟩ |
      ⟨_, hleads, hq, rfl⟩)
    · obtain ⟨_, _, hp, hx, rfl⟩ := hleads
      exact .asset (.inl rfl) hp hx hq
    · obtain ⟨_, _, hp, hx, rfl⟩ := hleads
      exact .asset (.inr rfl) hp hx hq
    · obtain ⟨_, _, hp, hstate, _, _, hys, hownership, _, _, hzs, htransfer, _, _, hws, hx, rfl⟩ :=
        hleads
      exact .token hp hstate hys hownership hzs htransfer hws hx hq
    · obtain ⟨_, _, hp, hinner, _, _, hys, hx, rfl⟩ := hleads
      exact .identity hp hinner hys hx hq

/-- **The parameter of a program is the one that its nesting says it is**, and there is none in all
other cases. -/
theorem keyParam?_simplify (r : Registry) (p : Program) (hdepth : p.depth ≤ depthLimit)
    (hfree : Sha256.CollisionFree (p.messages ++ r.messages)) :
    (∀ hex, (simplify r p).keyParam? = some hex ↔ r.Identifies p hex) ∧
      ((simplify r p).keyParam? = none ↔ ∀ hex, ¬ r.Identifies p hex) := by
  have hiff (hex : String) : (simplify r p).keyParam? = some hex ↔ r.Identifies p hex := by
    rw [simplify, if_pos hdepth, Node.keyParam?_eq_some_iff, Registry.identifies_iff]
    simp only [follow_recognise_eq_some_iff hfree, List.mem_cons, List.not_mem_nil, or_false,
      exists_eq_or_imp, exists_eq_left]
  refine ⟨hiff, ?_⟩
  rw [Option.eq_none_iff_forall_ne_some]
  exact forall_congr' fun hex => not_congr (hiff hex)

/-- The layer of a name that is an atom of one byte. -/
def layer (name : String) (byte : UInt8) : Template :=
  .ofProgram name (.atom [byte]) (Nat.zero_le _)

/-- The registry that has four atoms as the layers of a token. -/
def tokenRegistry : Registry where
  templates := [layer Template.singletonTopLayer 11, layer Template.nftStateLayer 12,
    layer Template.nftOwnershipLayer 13, layer Template.nftTransferProgram 14]
  names_nodup := by decide
  hashes_nodup := by
    have hcomputed :
        ([11, 12, 13, 14].map fun b : UInt8 => (Program.atom [b]).computedHash).Nodup := by
      decide +kernel
    simp only [Program.computedHash_eq_merkle] at hcomputed
    exact hcomputed

/-- What is registered there has one byte. -/
theorem not_registers_token (h : ∀ b, p ≠ .atom [b]) : ¬ tokenRegistry.Registers p := by
  rintro ⟨t, ht, rfl⟩
  simp only [tokenRegistry, List.mem_cons, List.not_mem_nil, or_false] at ht
  rcases ht with rfl | rfl | rfl | rfl <;> exact h _ rfl

/-- Arguments bound into a layer apply it. -/
theorem applies_layer {b : UInt8} {args : List Program}
    (h : layer name b ∈ tokenRegistry.templates) :
    tokenRegistry.Applies (.curry (.atom [b]) args) name args :=
  ⟨not_registers_token fun _ => nofun, _, Registry.get_eq_ok_iff.2 ⟨h, rfl⟩,
    Program.uncurry?_curry _ _⟩

/-- A transfer program with a royalty address of two bytes. -/
def sampleTransfer : Program := .curry (.atom [14]) [.nil, .atom [9, 9]]

/-- The ownership layer around the transfer program. -/
def sampleOwnership : Program := .curry (.atom [13]) [.nil, .nil, sampleTransfer]

/-- The state layer around the ownership layer. -/
def sampleState : Program := .curry (.atom [12]) [.nil, .nil, .nil, sampleOwnership]

/-- The token of these layers. -/
def sampleToken : Program := .curry (.atom [11]) [.nil, sampleState]

theorem identifies_sampleToken :
    tokenRegistry.Identifies sampleToken (Program.atom [9, 9]).toHex :=
  .token (applies_layer (b := 11) (by simp [tokenRegistry])) rfl
    (applies_layer (b := 12) (by simp [tokenRegistry])) rfl
    (applies_layer (b := 13) (by simp [tokenRegistry])) rfl
    (applies_layer (b := 14) (by simp [tokenRegistry])) rfl
    ⟨not_registers_token fun _ => nofun, fun _ _ => nofun⟩

theorem collisionFree_sampleToken :
    Sha256.CollisionFree (sampleToken.messages ++ tokenRegistry.messages) := by
  refine Program.collisionFree_of_nodup (_ :: tokenRegistry.templates.map (·.program)) ?_
  decide +kernel

/-- The royalty address of a token is found through its four layers. -/
theorem keyParam?_simplify_sampleToken :
    sampleToken.depth ≤ depthLimit ∧
      Sha256.CollisionFree (sampleToken.messages ++ tokenRegistry.messages) ∧
      (simplify tokenRegistry sampleToken).keyParam? = some (Program.atom [9, 9]).toHex := by
  have hdepth : sampleToken.depth ≤ depthLimit := by decide +kernel
  exact ⟨hdepth, collisionFree_sampleToken, ((keyParam?_simplify tokenRegistry sampleToken hdepth
    collisionFree_sampleToken).1 _).2 identifies_sampleToken⟩

end CoinPuzzles
