import CoinPuzzles.Proofs.Puzzle.Interchange
import CoinPuzzles.Proofs.Puzzle.Recognition

/-!
# Proofs/Puzzle/Comparison — what nodes that compare equal have in common

Comparing nodes leaves out whether a template counts as curried: nodes compare equal exactly if they
are equal once all flags are taken off (`Node.same_iff`).  The path, the parameter and the reason
why a node stands for no program do not see the flags.  The document and the program see them where
a template has no arguments, and agree exactly if both nodes are bound at the same positions
(`Node.boundAlike_iff`).  Main statement: `interchangeable_of_same`.
-/

namespace CoinPuzzles

open Program (sizeLimit depthLimit)

variable {r : Registry}

namespace Node

/-! ## What does not see the flags -/

mutual

/-- The node without flags. -/
def unflag : Node → Node
  | raw hex => raw hex
  | template name args _ => template name (unflagAll args) false

/-- The nodes without flags. -/
def unflagAll : List Node → List Node
  | [] => []
  | a :: as => unflag a :: unflagAll as

end

theorem unflagAll_eq_map (as : List Node) : unflagAll as = as.map unflag := by
  induction as with
  | nil => rfl
  | cons a as ih => rw [unflagAll, ih, List.map_cons]

mutual

/-- **Nodes compare equal exactly if they are equal but for their flags.** -/
theorem same_iff : ∀ {a b : Node}, a.same b = true ↔ a.unflag = b.unflag
  | raw a, raw b => by rw [same, beq_iff_eq, unflag, unflag, raw.injEq]
  | raw _, template _ _ _ => by simp [same, unflag]
  | template _ _ _, raw _ => by simp [same, unflag]
  | template m as c, template n bs d => by
    rw [same, Bool.and_eq_true, beq_iff_eq, sameAll_iff, unflag, unflag, template.injEq,
      and_iff_left rfl]

/-- Lists compare entry by entry, so they compare equal only with the same number of entries. -/
theorem sameAll_iff : ∀ {as bs : List Node}, sameAll as bs = true ↔ unflagAll as = unflagAll bs
  | [], [] => by simp [sameAll, unflagAll]
  | [], _ :: _ => by simp [sameAll, unflagAll]
  | _ :: _, [] => by simp [sameAll, unflagAll]
  | a :: as, b :: bs => by
    rw [sameAll, Bool.and_eq_true, same_iff, sameAll_iff, unflagAll, unflagAll, List.cons.injEq]

end

mutual

theorem path_unflag : ∀ n : Node, n.unflag.path = n.path
  | raw _ => rfl
  | template name args _ => by rw [unflag, path, path, paths_unflagAll args]

theorem paths_unflagAll : ∀ as : List Node, paths (unflagAll as) = paths as
  | [] => rfl
  | a :: as => by rw [unflagAll, paths, paths, path_unflag a, paths_unflagAll as]

end

theorem isTemplate_unflag (name : String) (n : Node) :
    n.unflag.isTemplate name = n.isTemplate name := by
  cases n <;> rfl

theorem leaf?_unflag (n : Node) : n.unflag.leaf? = n.leaf? := by
  cases n <;> rfl

theorem arg?_unflag (i : Nat) (n : Node) : n.unflag.arg? i = (n.arg? i).map unflag := by
  cases n with
  | raw hex => rfl
  | template name args curried => rw [unflag, arg?, arg?, unflagAll_eq_map, List.getElem?_map]

/-- **Steps lead to the same leaf**, by induction on them: each looks at a name and at an
argument. -/
theorem follow_unflag : ∀ (steps : List (String × Nat)) (n : Node),
    follow steps n.unflag = follow steps n
  | [], n => leaf?_unflag n
  | (name, i) :: steps, n => by
    rw [follow, follow, isTemplate_unflag, arg?_unflag]
    cases n.arg? i with
    | none => rfl
    | some a => rw [Option.map_some, Option.bind_some, Option.bind_some, follow_unflag steps a]

/-- **The parameter does not see the flags**: it is read from names, arguments and leaves. -/
theorem keyParam?_unflag (n : Node) : n.unflag.keyParam? = n.keyParam? := by
  rw [keyParam?, keyParam?]
  simp only [isTemplate_unflag, arg?_unflag, follow_unflag]
  cases n.arg? 1 with
  | none => rfl
  | some a =>
    simp only [Option.map_some, Option.bind_some, leaf?_unflag, isTemplate_unflag]

/-! ## Bound at the same positions -/

/-- The nodes have templates that bind arguments at the same positions. -/
def BoundAlike (a b : Node) : Prop :=
  ∀ position, (a.at? position).map isBound = (b.at? position).map isBound

theorem boundAlike_settle (n : Node) : BoundAlike n.settle n := by
  intro position
  rw [at?_settle, Option.map_map]
  exact Option.map_congr fun m _ => isBound_settle m

mutual

/-- **Nodes that compare equal and are bound alike settle alike**, by induction on both: at each
template the flags decide only whether arguments are bound, and this the positions tell. -/
theorem settle_eq_of_boundAlike : ∀ {a b : Node}, a.same b = true → BoundAlike a b →
    a.settle = b.settle
  | raw a, raw b, h, _ => by
    rw [same, beq_iff_eq] at h
    rw [h]
  | raw _, template _ _ _, h, _ => absurd h (by simp [same])
  | template _ _ _, raw _, h, _ => absurd h (by simp [same])
  | template m as c, template n bs d, h, hbound => by
    rw [same, Bool.and_eq_true, beq_iff_eq] at h
    obtain ⟨rfl, hargs⟩ := h
    have hflag : (c || !as.isEmpty) = (d || !bs.isEmpty) := Option.some.inj (hbound [])
    have hsettled : settleAll as = settleAll bs :=
      settleAll_eq_of_boundAlike hargs fun i position => hbound (i :: position)
    rw [settle, settle, hflag, hsettled]

theorem settleAll_eq_of_boundAlike : ∀ {as bs : List Node}, sameAll as bs = true →
    (∀ (i : Nat) (position : List Nat), ((as[i]?).bind (at? position)).map isBound =
      ((bs[i]?).bind (at? position)).map isBound) → settleAll as = settleAll bs
  | [], [], _, _ => rfl
  | [], _ :: _, h, _ => absurd h (by simp [sameAll])
  | _ :: _, [], h, _ => absurd h (by simp [sameAll])
  | a :: as, b :: bs, h, hbound => by
    rw [sameAll, Bool.and_eq_true] at h
    have hhead := settle_eq_of_boundAlike h.1 (hbound 0)
    have htail := settleAll_eq_of_boundAlike h.2 fun i => hbound (i + 1)
    rw [settleAll, settleAll, hhead, htail]

end

/-- **Nodes that compare equal are bound alike exactly if settling them makes them equal.** -/
theorem boundAlike_iff {a b : Node} (h : a.same b = true) :
    BoundAlike a b ↔ a.settle = b.settle := by
  refine ⟨settle_eq_of_boundAlike h, fun hsettle position => ?_⟩
  rw [← boundAlike_settle a, hsettle, boundAlike_settle b]

mutual

theorem toDocument_settle : ∀ n : Node, n.settle.toDocument = n.toDocument
  | raw _ => rfl
  | template name args curried => by
    rw [settle, toDocument, toDocument, toDocuments_settleAll args, isEmpty_settleAll]
    cases curried <;> cases args.isEmpty <;> rfl

theorem toDocuments_settleAll : ∀ as : List Node, toDocuments (settleAll as) = toDocuments as
  | [] => rfl
  | a :: as => by
    rw [settleAll, toDocuments, toDocuments, toDocument_settle a, toDocuments_settleAll as]

end

/-- **Nodes have one document exactly if they are equal up to settling.** -/
theorem toDocument_eq_iff {a b : Node} : a.toDocument = b.toDocument ↔ a.settle = b.settle := by
  constructor
  · intro h
    have hread := ofDocument_toDocument a
    rw [h, ofDocument_toDocument] at hread
    exact (Except.ok.inj hread).symm
  · intro h
    rw [← toDocument_settle a, h, toDocument_settle]

/-! ## Rebuilding -/

/-- A template is rebuilt from the programs of its arguments, of which a bare one has none. -/
theorem rebuild_template_eq (name : String) (args : List Node) (curried : Bool) :
    rebuild r (template name args curried) = (do
      let t ← (r.get name).mapError .registry
      let ps ← rebuildAll r args
      return if (template name args curried).isBound then t.program.curry ps else t.program) := by
  rw [rebuild]
  refine congrArg (_ >>= ·) (funext fun t => ?_)
  cases args with
  | nil => cases curried <;> rfl
  | cons a args => cases curried <;> rfl

/-- A template is rebuilt if it is registered and its arguments are rebuilt, and the module is
curried exactly if any are bound. -/
theorem rebuild_template_eq_ok_iff {name : String} {args : List Node} {curried : Bool}
    {p : Program} :
    rebuild r (template name args curried) = .ok p ↔
      ∃ t, r.get name = .ok t ∧ ∃ ps, rebuildAll r args = .ok ps ∧
        (if (template name args curried).isBound then t.program.curry ps else t.program) = p := by
  rw [rebuild_template_eq]
  simp only [Outcome.bind_eq_ok_iff, Outcome.mapError_eq_ok_iff, Outcome.pure_eq_ok_iff]

/-- A template is not rebuilt because of its name or, that being registered, because of its
arguments; currying never fails. -/
theorem rebuild_template_eq_error_iff {name : String} {args : List Node} {curried : Bool}
    {e : RebuildError} :
    rebuild r (template name args curried) = .error e ↔
      (r.get name).mapError RebuildError.registry = .error e ∨
        (∃ t, r.get name = .ok t) ∧ rebuildAll r args = .error e := by
  rw [rebuild_template_eq]
  simp only [Outcome.bind_eq_error_iff, Outcome.mapError_eq_ok_iff, ← exists_and_right]
  refine or_congr_right (exists_congr fun t => and_congr_right fun _ => or_iff_left ?_)
  rintro ⟨ps, -, h⟩
  exact absurd h Outcome.ok_ne_error

theorem rebuildAll_cons_eq_error_iff {a : Node} {as : List Node} {e : RebuildError} :
    rebuildAll r (a :: as) = .error e ↔
      rebuild r a = .error e ∨ (∃ p, rebuild r a = .ok p) ∧ rebuildAll r as = .error e := by
  rw [rebuildAll]
  simp only [Outcome.bind_eq_error_iff, ← exists_and_right]
  refine or_congr_right (exists_congr fun p => and_congr_right fun _ => or_iff_left ?_)
  rintro ⟨ps, -, h⟩
  exact absurd h Outcome.ok_ne_error

mutual

/-- **Why there is no program does not depend on flags.** -/
theorem rebuild_unflag_eq_error_iff : ∀ (n : Node) (e : RebuildError),
    n.unflag.rebuild r = .error e ↔ n.rebuild r = .error e
  | raw _, _ => Iff.rfl
  | template name args curried, e => by
    rw [unflag, rebuild_template_eq_error_iff, rebuild_template_eq_error_iff,
      rebuildAll_unflagAll_eq_error_iff args]

theorem rebuildAll_unflagAll_eq_error_iff : ∀ (as : List Node) (e : RebuildError),
    rebuildAll r (unflagAll as) = .error e ↔ rebuildAll r as = .error e
  | [], _ => Iff.rfl
  | a :: as, e => by
    have hrest := rebuildAll_unflagAll_eq_error_iff as e
    have hhead := rebuild_unflag_eq_error_iff a
    rw [unflagAll, rebuildAll_cons_eq_error_iff, rebuildAll_cons_eq_error_iff, hhead, hrest]
    simp only [Outcome.exists_ok_iff, ne_eq, hhead]

end

theorem nil_of_isBound_eq_false {name : String} {args : List Node} {curried : Bool}
    (h : (template name args curried).isBound = false) : args = [] := by
  cases args with
  | nil => rfl
  | cons a args => exact absurd ((Bool.or_true curried).symm.trans h) (by simp)

/-- A module with arguments bound is told from the bare one, and the arguments from each other. -/
theorem bound_inj {module : Program} {b c : Bool} {ps qs : List Program}
    (h : (if b then module.curry ps else module) = if c then module.curry qs else module) :
    b = c ∧ (b = true → ps = qs) := by
  cases b <;> cases c
  · exact ⟨rfl, fun hb => absurd hb (by simp)⟩
  · exact absurd h.symm (Program.curry_ne _ _)
  · exact absurd h (Program.curry_ne _ _)
  · exact ⟨rfl, fun _ => (Program.curry_inj.1 h).2⟩

mutual

/-- **Nodes that compare equal and stand for one program are equal up to settling.** -/
theorem settle_eq_of_rebuild : ∀ {a b : Node} {p : Program}, a.same b = true →
    a.rebuild r = .ok p → b.rebuild r = .ok p → a.settle = b.settle
  | raw a, raw b, _, h, _, _ => by
    rw [same, beq_iff_eq] at h
    rw [h]
  | raw _, template _ _ _, _, h, _, _ => absurd h (by simp [same])
  | template _ _ _, raw _, _, h, _, _ => absurd h (by simp [same])
  | template m as c, template n bs d, p, h, ha, hb => by
    rw [same, Bool.and_eq_true, beq_iff_eq] at h
    obtain ⟨rfl, hargs⟩ := h
    obtain ⟨t, ht, ps, hps, rfl⟩ := rebuild_template_eq_ok_iff.1 ha
    obtain ⟨u, hu, qs, hqs, hprogram⟩ := rebuild_template_eq_ok_iff.1 hb
    obtain rfl := Except.ok.inj (ht.symm.trans hu)
    obtain ⟨hflag, hprograms⟩ := bound_inj hprogram.symm
    have hsettled : settleAll as = settleAll bs := by
      cases hbound : (template m as c).isBound with
      | false =>
        rw [nil_of_isBound_eq_false hbound, nil_of_isBound_eq_false (hflag.symm.trans hbound)]
      | true =>
        obtain rfl := hprograms hbound
        exact settleAll_eq_of_rebuildAll hargs hps hqs
    exact congrArg₂ (template m) hsettled hflag

theorem settleAll_eq_of_rebuildAll : ∀ {as bs : List Node} {ps : List Program},
    sameAll as bs = true → rebuildAll r as = .ok ps → rebuildAll r bs = .ok ps →
      settleAll as = settleAll bs
  | [], [], _, _, _, _ => rfl
  | [], _ :: _, _, h, _, _ => absurd h (by simp [sameAll])
  | _ :: _, [], _, h, _, _ => absurd h (by simp [sameAll])
  | a :: as, b :: bs, _, h, ha, hb => by
    rw [sameAll, Bool.and_eq_true] at h
    rw [rebuildAll_eq_ok_iff] at ha hb
    obtain _ | ⟨ha, has⟩ := ha
    obtain _ | ⟨hb, hbs⟩ := hb
    rw [settleAll, settleAll, settle_eq_of_rebuild h.1 ha hb,
      settleAll_eq_of_rebuildAll h.2 (rebuildAll_eq_ok_iff.2 has) (rebuildAll_eq_ok_iff.2 hbs)]

end

/-- **Nodes that compare equal fail alike**, as the reason is that of the node without flags. -/
theorem rebuild_eq_error_iff_of_same {a b : Node} (h : a.same b = true) {e : RebuildError} :
    a.rebuild r = .error e ↔ b.rebuild r = .error e := by
  rw [← rebuild_unflag_eq_error_iff a, same_iff.1 h, rebuild_unflag_eq_error_iff b]

/-- **Nodes that compare equal are rebuilt alike if they are bound alike**, and else if neither
is. -/
theorem rebuild_eq_iff_of_same {a b : Node} (h : a.same b = true) :
    a.rebuild r = b.rebuild r ↔ BoundAlike a b ∨ ∃ e, a.rebuild r = .error e := by
  rw [boundAlike_iff h]
  constructor
  · intro hrebuild
    cases ha : a.rebuild r with
    | error e => exact .inr ⟨e, rfl⟩
    | ok p => exact .inl (settle_eq_of_rebuild h ha (hrebuild ▸ ha))
  · rintro (hsettle | ⟨e, he⟩)
    · rw [← rebuild_settle r a, hsettle, rebuild_settle]
    · rw [he, (rebuild_eq_error_iff_of_same h).1 he]

end Node

/-! ## Programs -/

/-- **Rebuilding a simplified puzzle gives the program back** if its leaves can be written. -/
theorem LeavesFit.rebuild_simplified {p : Program} (h : LeavesFit r p)
    (hfree : Sha256.CollisionFree (p.messages ++ r.messages)) :
    (simplify r p).rebuild r = .ok p := by
  rw [simplify]
  split
  · exact h.rebuild_recognise hfree
  · next hdeep =>
    -- A registered program is within the limit, so what is past it is kept whole.
    cases h with
    | whole hatoms => exact Node.rebuild_raw_eq_ok_iff.2 (Program.ofHex_toHex hatoms)
    | @registered t _ => exact absurd (Program.treeHash_eq_ok_iff.1 t.hash_eq).1 hdeep
    | curried _ hdepth _ => exact absurd hdepth hdeep

open Node (BoundAlike)

/-- **Programs whose simplified puzzles compare equal are equal if these are bound alike**, and else
they are not. -/
theorem eq_iff_boundAlike_simplify {p q : Program}
    (h : (simplify r p).same (simplify r q) = true) (hp : LeavesFit r p) (hq : LeavesFit r q)
    (hfree : Sha256.CollisionFree (p.messages ++ q.messages ++ r.messages)) :
    p = q ↔ BoundAlike (simplify r p) (simplify r q) := by
  have hrebuildp := hp.rebuild_simplified
    (hfree.append_mono (List.subset_append_left _ _) (List.Subset.refl _))
  have hrebuildq := hq.rebuild_simplified
    (hfree.append_mono (List.subset_append_right _ _) (List.Subset.refl _))
  rw [Node.boundAlike_iff h]
  constructor
  · rintro rfl
    rfl
  · intro hsettle
    rw [← Node.rebuild_settle, hsettle, Node.rebuild_settle, hrebuildq] at hrebuildp
    exact (Except.ok.inj hrebuildp).symm

/-- **Nodes that compare equal are interchangeable exactly if they are bound alike.** -/
theorem interchangeable_of_same (r : Registry) :
    (∀ {a b : Node}, a.same b = true →
      a.path = b.path ∧ a.keyParam? = b.keyParam? ∧
      (a.toDocument = b.toDocument ↔ BoundAlike a b) ∧
      (∀ e, a.rebuild r = .error e ↔ b.rebuild r = .error e) ∧
      (a.rebuild r = b.rebuild r ↔ BoundAlike a b ∨ ∃ e, a.rebuild r = .error e)) ∧
    (∀ {p q : Program}, (simplify r p).same (simplify r q) = true →
      LeavesFit r p → LeavesFit r q →
      Sha256.CollisionFree (p.messages ++ q.messages ++ r.messages) →
      (p = q ↔ BoundAlike (simplify r p) (simplify r q))) := by
  refine ⟨fun {a b} h => ?_, fun h hp hq hfree => eq_iff_boundAlike_simplify h hp hq hfree⟩
  have hunflag := Node.same_iff.1 h
  have hpath : a.path = b.path := by rw [← a.path_unflag, hunflag, b.path_unflag]
  have hkey : a.keyParam? = b.keyParam? := by
    rw [← a.keyParam?_unflag, hunflag, b.keyParam?_unflag]
  have hdocument : a.toDocument = b.toDocument ↔ BoundAlike a b := by
    rw [Node.toDocument_eq_iff, Node.boundAlike_iff h]
  exact ⟨hpath, hkey, hdocument, fun _ => Node.rebuild_eq_error_iff_of_same h,
    Node.rebuild_eq_iff_of_same h⟩

/-! ## The bare template and the bound one -/

/-- Both programs and the registry are hashed from a few short messages, no two of them alike. -/
theorem collisionFree_sevens :
    Sha256.CollisionFree
      ((Program.atom [7]).messages ++ boundSeven.messages ++ sevenRegistry.messages) :=
  collisionFree_boundSeven.mono fun m hm => by
    simp only [List.mem_append] at hm ⊢
    rcases hm with (hm | hm) | hm
    · exact .inr (Registry.messages_subset (List.mem_singleton.2 rfl) hm)
    · exact .inl hm
    · exact .inr hm

theorem nameOf?_seven : sevenRegistry.nameOf? (Program.atom [7]).merkle = some "seven" := by
  have hseven : Template.ofProgram "seven" (.atom [7]) (by decide) ∈ sevenRegistry.templates :=
    List.mem_singleton.2 rfl
  have hname := Registry.nameOf?_program hseven
  rwa [Template.ofProgram] at hname

/-- **The registered program alone becomes the bare template.** -/
theorem simplify_seven :
    simplify sevenRegistry (.atom [7]) = .template "seven" [] false := by
  rw [simplify, if_pos (by decide)]
  exact recognise_registered nameOf?_seven

/-- **The same program with an empty list bound becomes the bound template**, which compares
equal. -/
theorem simplify_boundSeven :
    simplify sevenRegistry boundSeven = .template "seven" [] true := by
  have hunregistered : ¬ sevenRegistry.Registers boundSeven := by
    rintro ⟨t, ht, h⟩
    obtain rfl := List.mem_singleton.1 ht
    exact Program.noConfusion h
  rw [simplify, if_pos (by decide)]
  exact recognise_curried ((Registry.nameOf?_eq_none_iff collisionFree_boundSeven).2 hunregistered)
    (Program.uncurry?_curry _ _) nameOf?_seven

/-- Of a template with an argument the flag does not matter; of one without it does. -/
theorem interchangeable_of_same_sevens :
    ((Node.template "seven" [.template "seven" [] true] false).same
        (.template "seven" [.template "seven" [] true] true) = true ∧
      (Node.template "seven" [.template "seven" [] true] false).rebuild sevenRegistry =
        (Node.template "seven" [.template "seven" [] true] true).rebuild sevenRegistry) ∧
    ((simplify sevenRegistry (.atom [7])).same (simplify sevenRegistry boundSeven) = true ∧
      LeavesFit sevenRegistry (.atom [7]) ∧ LeavesFit sevenRegistry boundSeven ∧
      Sha256.CollisionFree
        ((Program.atom [7]).messages ++ boundSeven.messages ++ sevenRegistry.messages) ∧
      ¬ BoundAlike (simplify sevenRegistry (.atom [7])) (simplify sevenRegistry boundSeven)) := by
  have hsame : (Node.template "seven" [.template "seven" [] true] false).same
      (.template "seven" [.template "seven" [] true] true) = true := rfl
  have hbound := (Node.boundAlike_iff hsame).2 rfl
  obtain ⟨-, -, -, -, hrebuild⟩ := (interchangeable_of_same sevenRegistry).1 hsame
  have htrees : (simplify sevenRegistry (.atom [7])).same (simplify sevenRegistry boundSeven) =
      true := by
    rw [simplify_seven, simplify_boundSeven]
    rfl
  have hseven : LeavesFit sevenRegistry (.atom [7]) := .whole (by decide)
  have hboundSeven : LeavesFit sevenRegistry boundSeven := .whole (by decide)
  have hprograms := (interchangeable_of_same sevenRegistry).2 htrees hseven hboundSeven
    collisionFree_sevens
  exact ⟨⟨hsame, hrebuild.2 (.inl hbound)⟩, htrees, hseven, hboundSeven, collisionFree_sevens,
    fun h => Program.noConfusion (hprograms.2 h)⟩

/-- **Two programs whose simplified puzzles compare equal need not be one program**, nor have one
document: a bare template compares equal to the template with no arguments bound. -/
theorem bare_same_bound :
    (simplify sevenRegistry (.atom [7])).same (simplify sevenRegistry boundSeven) = true ∧
      Sha256.CollisionFree
        ((Program.atom [7]).messages ++ boundSeven.messages ++ sevenRegistry.messages) ∧
      (simplify sevenRegistry (.atom [7])).toDocument ≠
        (simplify sevenRegistry boundSeven).toDocument ∧
      (simplify sevenRegistry (.atom [7])).rebuild sevenRegistry ≠
        (simplify sevenRegistry boundSeven).rebuild sevenRegistry ∧
      Program.atom [7] ≠ boundSeven := by
  have hprogram : Program.atom [7] ≠ boundSeven := fun h => Program.noConfusion h
  have hseven : LeavesFit sevenRegistry (.atom [7]) := .whole (by decide)
  have hboundSeven : LeavesFit sevenRegistry boundSeven := .whole (by decide)
  refine ⟨?_, collisionFree_sevens, ?_, ?_, hprogram⟩
  · rw [simplify_seven, simplify_boundSeven]
    rfl
  · rw [simplify_seven, simplify_boundSeven, ne_eq, Node.toDocument_eq_iff]
    simp [Node.settle]
  · rw [hseven.rebuild_simplified (collisionFree_sevens.append_mono
        (List.subset_append_left _ _) (List.Subset.refl _)),
      hboundSeven.rebuild_simplified collisionFree_boundSeven]
    exact fun h => hprogram (Except.ok.inj h)

end CoinPuzzles
