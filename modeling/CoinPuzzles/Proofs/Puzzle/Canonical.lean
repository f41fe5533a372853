import CoinPuzzles.Proofs.Puzzle.Recognition

/-!
# Proofs/Puzzle/Canonical — the nodes that simplification yields

A node is canonical if no leaf hides a program that is recognised, and no template with arguments
bound stands for a program that is registered whole.  Main statement: within the depth limit the
canonical nodes are exactly the simplified programs, each of the program that it stands for.
-/

namespace CoinPuzzles

open Program (sizeLimit depthLimit)

variable {r : Registry}

/-- The node is what the registry makes of a program. -/
inductive Canonical (r : Registry) : Node → Prop where
  /-- A leaf spells a program, so no atom of it is past the size limit; the program is neither
  registered nor does it bind arguments into a registered module. -/
  | raw {p : Program} (hatoms : ∀ b ∈ p.atoms, b.length < sizeLimit) (hp : ¬ r.Registers p)
    (hmodule : ∀ module args, p.uncurry? = some (module, args) → ¬ r.Registers module) :
    Canonical r (.raw p.toHex)
  /-- A bare template is registered and has no arguments. -/
  | bare {t : Template} (ht : t ∈ r.templates) : Canonical r (.template t.name [] false)
  /-- A template with canonical arguments is registered, and its program is not. -/
  | curried {t : Template} {args : List Node} {p : Program} (ht : t ∈ r.templates)
    (hargs : ∀ a ∈ args, Canonical r a)
    (hrebuild : (Node.template t.name args true).rebuild r = .ok p) (hp : ¬ r.Registers p) :
    Canonical r (.template t.name args true)

theorem Canonical.exists_rebuild {n : Node} (h : Canonical r n) : ∃ p, n.rebuild r = .ok p := by
  cases h with
  | raw hatoms hp hmodule =>
    exact ⟨_, Node.rebuild_raw_eq_ok_iff.2 (Program.ofHex_toHex hatoms)⟩
  | bare ht => exact ⟨_, Node.rebuild_bare ht⟩
  | curried ht hargs hrebuild hp => exact ⟨_, hrebuild⟩

/-- Nodes that come back one by one come back as a list. -/
theorem map_recognise_eq {args : List Node} {ps : List Program}
    (h : List.Forall₂ (fun a p => a.rebuild r = .ok p) args ps)
    (hback : ∀ a ∈ args, ∀ p ∈ ps, a.rebuild r = .ok p → recognise r p = a) :
    ps.map (recognise r) = args := by
  induction h with
  | nil => rfl
  | cons hap _ ih =>
    rw [List.map_cons, hback _ List.mem_cons_self _ List.mem_cons_self hap,
      ih fun a ha p hp => hback a (List.mem_cons_of_mem _ ha) p (List.mem_cons_of_mem _ hp)]

/-- **A canonical node is what its program is recognised as**, at any depth. -/
theorem Canonical.recognise_eq {n : Node} (h : Canonical r n) : ∀ {p : Program},
    n.rebuild r = .ok p → Sha256.CollisionFree (p.messages ++ r.messages) →
      recognise r p = n := by
  induction h with
  | @raw q hatoms hq hmodule =>
    intro p hrebuild hfree
    rw [Node.rebuild_raw_eq_ok_iff, Program.ofHex_toHex hatoms] at hrebuild
    obtain rfl := Except.ok.inj hrebuild
    have hname := (Registry.nameOf?_eq_none_iff hfree).2 hq
    cases hshape : q.uncurry? with
    | none => exact recognise_shapeless hname hshape
    | some found =>
      obtain ⟨module, args⟩ := found
      have hpart : Program.Subtree module q := by
        rw [Program.uncurry?_eq_some_iff.1 hshape]
        exact Program.subtree_curry_module module args
      exact recognise_unknown_module hname hshape
        ((Registry.nameOf?_eq_none_iff (hpart.collisionFree hfree)).2
          (hmodule module args hshape))
  | @bare t ht =>
    intro p hrebuild hfree
    rw [Node.rebuild_bare ht] at hrebuild
    obtain rfl := Except.ok.inj hrebuild
    exact recognise_registered (Registry.nameOf?_program ht)
  | @curried t args q ht _ hq hunregistered ih =>
    intro p hrebuild hfree
    rw [hq] at hrebuild
    obtain rfl := Except.ok.inj hrebuild
    obtain ⟨ps, hps, rfl⟩ := (Node.rebuild_curried_eq_ok_iff ht).1 hq
    rw [recognise_curried ((Registry.nameOf?_eq_none_iff hfree).2 hunregistered)
      (Program.uncurry?_curry t.program ps) (Registry.nameOf?_program ht)]
    refine congrArg (Node.template t.name · true) (map_recognise_eq
      (Node.rebuildAll_eq_ok_iff.1 hps) fun a ha p hp hap => ih a ha hap ?_)
    exact (Program.subtree_curry_arg t.program hp).collisionFree hfree

/-- **What a program is recognised as is canonical**, at any depth. -/
theorem canonical_recognise (p : Program) (hatoms : ∀ b ∈ p.atoms, b.length < sizeLimit)
    (hfree : Sha256.CollisionFree (p.messages ++ r.messages)) : Canonical r (recognise r p) := by
  induction p using recognise.induct r with
  | case1 p name hname =>
    obtain ⟨t, ht, rfl, -⟩ := Registry.exists_template_of_nameOf? hfree hname
    rw [recognise_registered hname]
    exact .bare ht
  | case2 p hname hshape =>
    rw [recognise_shapeless hname hshape]
    refine .raw hatoms ((Registry.nameOf?_eq_none_iff hfree).1 hname) fun module args h => ?_
    exact absurd (hshape.symm.trans h) (by simp)
  | case3 p hname module args hshape hmodule =>
    rw [recognise_unknown_module hname hshape hmodule]
    refine .raw hatoms ((Registry.nameOf?_eq_none_iff hfree).1 hname) fun module' args' h => ?_
    obtain ⟨rfl, rfl⟩ := Prod.mk.inj (Option.some.inj (hshape.symm.trans h))
    rintro ⟨t, ht, rfl⟩
    exact absurd ((Registry.nameOf?_program ht).symm.trans hmodule) (by simp)
  | case4 p hname module args hshape name hmodule ih =>
    have hrebuild := rebuild_recognise p hatoms hfree
    have hp := (Registry.nameOf?_eq_none_iff hfree).1 hname
    rw [recognise_curried hname hshape hmodule] at hrebuild ⊢
    obtain rfl := Program.uncurry?_eq_some_iff.1 hshape
    obtain ⟨t, ht, rfl, -⟩ := Registry.nameOf?_eq_some_iff.1 hmodule
    refine .curried ht (fun a ha => ?_) hrebuild hp
    obtain ⟨arg, harg, rfl⟩ := List.mem_map.1 ha
    have hsub := Program.subtree_curry_arg module harg
    exact ih ⟨arg, harg⟩ (fun b hb => hatoms b (hsub.atoms_subset hb))
      (hsub.collisionFree hfree)

/-- **The simplified programs are the canonical nodes.**  A canonical node stands for a program,
and is what that program simplifies to, flags included; and every program that can be spelled
simplifies to a canonical node. -/
theorem simplify_image_canonical (r : Registry) :
    (∀ n, Canonical r n → ∃ p, n.rebuild r = .ok p ∧
      (p.depth ≤ depthLimit → Sha256.CollisionFree (p.messages ++ r.messages) →
        simplify r p = n)) ∧
    (∀ p : Program, (∀ b ∈ p.atoms, b.length < sizeLimit) → p.depth ≤ depthLimit →
      Sha256.CollisionFree (p.messages ++ r.messages) → Canonical r (simplify r p)) := by
  refine ⟨fun n hn => ?_, fun p hatoms hdepth hfree => ?_⟩
  · obtain ⟨p, hp⟩ := hn.exists_rebuild
    refine ⟨p, hp, fun hdepth hfree => ?_⟩
    rw [simplify, if_pos hdepth]
    exact hn.recognise_eq hp hfree
  · rw [simplify, if_pos hdepth]
    exact canonical_recognise p hatoms hfree

/-- The template with no arguments bound is the canonical node of its program. -/
theorem simplify_image_canonical_boundSeven :
    (Canonical sevenRegistry (.template "seven" [] true) ∧
      simplify sevenRegistry boundSeven = .template "seven" [] true) ∧
    ((∀ b ∈ boundSeven.atoms, b.length < sizeLimit) ∧ boundSeven.depth ≤ depthLimit ∧
      Sha256.CollisionFree (boundSeven.messages ++ sevenRegistry.messages) ∧
      Canonical sevenRegistry (simplify sevenRegistry boundSeven)) := by
  have hatoms : ∀ b ∈ boundSeven.atoms, b.length < sizeLimit := by decide
  have hdepth : boundSeven.depth ≤ depthLimit := by decide
  have hseven : Template.ofProgram "seven" (.atom [7]) (by decide) ∈ sevenRegistry.templates :=
    List.mem_singleton.2 rfl
  have hrebuild : (Node.template "seven" [] true).rebuild sevenRegistry = .ok boundSeven :=
    (Node.rebuild_curried_eq_ok_iff hseven).2 ⟨[], rfl, rfl⟩
  have hcanonical : Canonical sevenRegistry (.template "seven" [] true) := by
    refine .curried hseven (by simp) hrebuild ?_
    rintro ⟨t, ht, h⟩
    obtain rfl := List.mem_singleton.1 ht
    exact Program.noConfusion h
  obtain ⟨p, hp, hback⟩ := (simplify_image_canonical sevenRegistry).1 _ hcanonical
  obtain rfl := Except.ok.inj (hrebuild.symm.trans hp)
  exact ⟨⟨hcanonical, hback hdepth collisionFree_boundSeven⟩, hatoms, hdepth,
    collisionFree_boundSeven,
    (simplify_image_canonical sevenRegistry).2 _ hatoms hdepth collisionFree_boundSeven⟩

end CoinPuzzles
