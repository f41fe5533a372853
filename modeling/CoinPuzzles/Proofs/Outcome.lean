import Mathlib.Data.List.Forall2

/-!
# Proofs/Outcome — when a computation that may fail succeeds

A sequence succeeds if each of its steps does, a computation on a list if it does on every element
(`mapM_eq_ok_iff`) — else the first element that is refused is the refusal of all — and changing the
wording of a refusal changes no result.
-/

namespace CoinPuzzles.Outcome

variable {ε ε' α β : Type}

theorem pure_eq_ok_iff {a b : α} : (pure a : Except ε α) = .ok b ↔ a = b :=
  ⟨Except.ok.inj, congrArg Except.ok⟩

theorem error_ne_ok {e : ε} {a : α} : (Except.error e : Except ε α) ≠ .ok a := by
  simp only [ne_eq, reduceCtorEq, not_false_eq_true]

theorem ok_ne_error {a : α} {e : ε} : (Except.ok a : Except ε α) ≠ .error e := error_ne_ok.symm

/-- What is not refused has a result. -/
theorem exists_ok_iff {x : Except ε α} : (∃ a, x = .ok a) ↔ ∀ e, x ≠ .error e := by
  cases x with
  | error e =>
    constructor
    · rintro ⟨a, h⟩
      exact absurd h error_ne_ok
    · intro h
      exact absurd rfl (h e)
  | ok a => exact ⟨fun _ _ => ok_ne_error, fun _ => ⟨a, rfl⟩⟩

/-- **A sequence of two steps succeeds exactly if both do.** -/
theorem bind_eq_ok_iff {x : Except ε α} {f : α → Except ε β} {b : β} :
    (x >>= f) = .ok b ↔ ∃ a, x = .ok a ∧ f a = .ok b := by
  cases x with
  | error e =>
    constructor
    · intro h
      exact absurd h error_ne_ok
    · rintro ⟨a, h, -⟩
      exact absurd h error_ne_ok
  | ok a =>
    refine ⟨fun h => ⟨a, rfl, h⟩, ?_⟩
    rintro ⟨_, h, hf⟩
    obtain rfl := Except.ok.inj h
    exact hf

/-- **A sequence of two steps is refused by the first or, once that is done, by the second.** -/
theorem bind_eq_error_iff {x : Except ε α} {f : α → Except ε β} {e : ε} :
    (x >>= f) = .error e ↔ x = .error e ∨ ∃ a, x = .ok a ∧ f a = .error e := by
  cases x with
  | error e' => simp [bind, Except.bind]
  | ok a =>
    constructor
    · intro h
      exact .inr ⟨a, rfl, h⟩
    · rintro (h | ⟨_, h, hf⟩)
      · exact absurd h ok_ne_error
      · obtain rfl := Except.ok.inj h
        exact hf

/-- A step that only refuses lets everything else through. -/
theorem guard_eq_ok_iff {c : Prop} [Decidable c] {e : ε} {f : PUnit → Except ε β} {b : β} :
    (if c then (Except.error e >>= f) else f ⟨⟩) = .ok b ↔ ¬ c ∧ f ⟨⟩ = .ok b := by
  split
  · next hc =>
    constructor
    · intro h
      exact absurd h error_ne_ok
    · rintro ⟨hnot, -⟩
      exact absurd hc hnot
  · next hc => exact ⟨fun h => ⟨hc, h⟩, And.right⟩

theorem map_eq_ok_iff {x : Except ε α} {f : α → β} {b : β} :
    x.map f = .ok b ↔ ∃ a, x = .ok a ∧ b = f a := by
  cases x <;> simp [Except.map, eq_comm]

theorem map_eq_error_iff {x : Except ε α} {f : α → β} {e : ε} :
    x.map f = .error e ↔ x = .error e := by
  cases x <;> simp [Except.map]

theorem mapError_eq_ok_iff {x : Except ε α} {f : ε → ε'} {a : α} :
    x.mapError f = .ok a ↔ x = .ok a := by
  cases x with
  | error e =>
    change Except.error (f e) = Except.ok a ↔ Except.error e = Except.ok a
    simp only [reduceCtorEq]
  | ok b =>
    change Except.ok b = Except.ok a ↔ Except.ok b = Except.ok a
    rw [Except.ok.injEq, Except.ok.injEq]

/-! ## Lists -/

/-- **A computation on a list succeeds exactly if it does on every element.** -/
theorem mapM_eq_ok_iff {f : α → Except ε β} {as : List α} {bs : List β} :
    as.mapM f = .ok bs ↔ List.Forall₂ (fun a b => f a = .ok b) as bs := by
  induction as generalizing bs with
  | nil => rw [List.mapM_nil, List.forall₂_nil_left_iff, pure_eq_ok_iff, eq_comm]
  | cons a as ih =>
    rw [List.mapM_cons, List.forall₂_cons_left_iff, bind_eq_ok_iff]
    constructor
    · rintro ⟨b, hb, h⟩
      obtain ⟨rest, hrest, h⟩ := bind_eq_ok_iff.1 h
      exact ⟨b, rest, hb, ih.1 hrest, (pure_eq_ok_iff.1 h).symm⟩
    · rintro ⟨b, rest, hb, hrest, rfl⟩
      exact ⟨b, hb, bind_eq_ok_iff.2 ⟨rest, ih.2 hrest, rfl⟩⟩

/-- A relation that says what each element comes to says what the list comes to. -/
theorem mapM_eq_ok_iff_forall₂ {R : α → β → Prop} {f : α → Except ε β} {as : List α}
    {bs : List β} (h : ∀ a ∈ as, ∀ b, f a = .ok b ↔ R a b) :
    as.mapM f = .ok bs ↔ List.Forall₂ R as bs := by
  rw [mapM_eq_ok_iff]
  constructor
  · exact fun hf => ((List.forall₂_and_left ..).2 ⟨h, hf⟩).imp fun a b hab => (hab.1 b).1 hab.2
  · exact fun hR => ((List.forall₂_and_left ..).2 ⟨h, hR⟩).imp fun a b hab => (hab.1 b).2 hab.2

theorem exists_of_mem_forall₂ {R : α → β → Prop} {as : List α} {bs : List β}
    (h : List.Forall₂ R as bs) {b : β} (hb : b ∈ bs) : ∃ a ∈ as, R a b := by
  induction h with
  | nil => cases hb
  | @cons a _ _ _ hab _ ih =>
    rcases List.mem_cons.1 hb with rfl | hb
    · exact ⟨a, List.mem_cons_self, hab⟩
    · obtain ⟨c, hc, hcb⟩ := ih hb
      exact ⟨c, List.mem_cons_of_mem _ hc, hcb⟩

/-- If each element comes to something, the list comes to a list of such. -/
theorem exists_forall₂ {R : α → β → Prop} : ∀ {as : List α}, (∀ a ∈ as, ∃ b, R a b) →
    ∃ bs, List.Forall₂ R as bs
  | [], _ => ⟨[], .nil⟩
  | a :: as, h => by
    obtain ⟨b, hb⟩ := h a List.mem_cons_self
    obtain ⟨bs, hbs⟩ := exists_forall₂ fun c hc => h c (List.mem_cons_of_mem a hc)
    exact ⟨b :: bs, .cons hb hbs⟩

/-- Lists whose entries agree one by one have one image. -/
theorem map_eq_of_forall₂ {γ : Type} {f : α → γ} {g : β → γ} {as : List α} {bs : List β}
    (h : List.Forall₂ (fun a b => f a = g b) as bs) : as.map f = bs.map g := by
  rw [← List.forall₂_eq_eq_eq, List.forall₂_map_left_iff, List.forall₂_map_right_iff]
  exact h

/-- A result comes from an element. -/
theorem exists_of_mem_mapM {f : α → Except ε β} {as : List α} {bs : List β}
    (h : as.mapM f = .ok bs) {b : β} (hb : b ∈ bs) : ∃ a ∈ as, f a = .ok b :=
  exists_of_mem_forall₂ (mapM_eq_ok_iff.1 h) hb

/-- An element has a result. -/
theorem exists_of_mem_mapM_left {f : α → Except ε β} {as : List α} {bs : List β}
    (h : as.mapM f = .ok bs) {a : α} (ha : a ∈ as) : ∃ b ∈ bs, f a = .ok b :=
  exists_of_mem_forall₂ (mapM_eq_ok_iff.1 h).flip ha

/-- Elements and results stand at the same places. -/
theorem exists_getElem?_of_mapM {f : α → Except ε β} {as : List α} {bs : List β}
    (h : as.mapM f = .ok bs) {i : Nat} {a : α} (ha : as[i]? = some a) :
    ∃ b, bs[i]? = some b ∧ f a = .ok b := by
  obtain ⟨hlength, hall⟩ := List.forall₂_iff_get.1 (mapM_eq_ok_iff.1 h)
  obtain ⟨hi, rfl⟩ := List.getElem?_eq_some_iff.1 ha
  exact ⟨bs[i], List.getElem?_eq_getElem (hlength ▸ hi), hall i hi (hlength ▸ hi)⟩

/-- **A computation on a list is refused by its first element that is refused.** -/
theorem mapM_eq_error_iff {f : α → Except ε β} {as : List α} {e : ε} :
    as.mapM f = .error e ↔
      ∃ done a rest, as = done ++ a :: rest ∧ (∃ bs, done.mapM f = .ok bs) ∧ f a = .error e := by
  induction as with
  | nil =>
    constructor
    · intro h
      exact absurd h ok_ne_error
    · rintro ⟨done, a, rest, h, -⟩
      exact absurd h.symm (List.append_ne_nil_of_right_ne_nil _ (List.cons_ne_nil _ _))
  | cons a as ih =>
    rw [List.mapM_cons, bind_eq_error_iff]
    constructor
    · rintro (h | ⟨b, hb, h⟩)
      · exact ⟨[], a, as, rfl, ⟨[], rfl⟩, h⟩
      · obtain h | ⟨bs, -, h⟩ := bind_eq_error_iff.1 h
        · obtain ⟨done, c, rest, rfl, ⟨bs, hbs⟩, hc⟩ := ih.1 h
          refine ⟨a :: done, c, rest, rfl, ⟨b :: bs, ?_⟩, hc⟩
          rw [mapM_eq_ok_iff] at hbs ⊢
          exact .cons hb hbs
        · exact absurd h ok_ne_error
    · rintro ⟨done, c, rest, h, ⟨bs, hbs⟩, hc⟩
      cases done with
      | nil =>
        obtain ⟨rfl, rfl⟩ := List.cons.inj h
        exact .inl hc
      | cons d done =>
        obtain ⟨rfl, rfl⟩ := List.cons.inj h
        cases mapM_eq_ok_iff.1 hbs with
        | cons hd hdone =>
          refine .inr ⟨_, hd, bind_eq_error_iff.2 (.inl (ih.2 ?_))⟩
          exact ⟨done, c, rest, rfl, ⟨_, mapM_eq_ok_iff.2 hdone⟩, hc⟩

/-- Results that may be missing are left out in the end or their elements beforehand. -/
theorem mapM_filterMap_id {p : α → Bool} {f : α → Except ε (Option β)} {g : α → Except ε β}
    (h : ∀ a, f a = if p a then (g a).map some else .ok none) (as : List α) :
    (as.mapM f).map (·.filterMap id) = (as.filter p).mapM g := by
  induction as with
  | nil => rfl
  | cons a as ih =>
    rw [List.mapM_cons, List.filter_cons, h a]
    split
    · rw [List.mapM_cons, ← ih]
      cases g a <;> cases as.mapM f <;> rfl
    · rw [← ih]
      cases as.mapM f <;> rfl

/-- Two passes over a list, the second over the results of the first, are one. -/
theorem mapM_bind_eq_ok_iff {γ : Type} {f : α → Except ε β} {g : β → Except ε γ} {as : List α}
    {cs : List γ} :
    as.mapM (fun a => f a >>= g) = .ok cs ↔ (as.mapM f >>= fun bs => bs.mapM g) = .ok cs := by
  rw [bind_eq_ok_iff]
  simp only [mapM_eq_ok_iff, bind_eq_ok_iff]
  induction as generalizing cs with
  | nil => simp
  | cons a as ih =>
    simp only [List.forall₂_cons_left_iff, ih]
    constructor
    · rintro ⟨c, cs, ⟨b, hb, hc⟩, ⟨bs, hbs, hcs⟩, rfl⟩
      exact ⟨b :: bs, ⟨b, bs, hb, hbs, rfl⟩, .cons hc hcs⟩
    · rintro ⟨_, ⟨b, bs, hb, hbs, rfl⟩, h⟩
      obtain ⟨c, cs, hc, hcs, rfl⟩ := List.forall₂_cons_left_iff.1 h
      exact ⟨c, cs, ⟨b, hb, hc⟩, ⟨bs, hbs, hcs⟩, rfl⟩

/-! ## Failures of one kind -/

/-- The computation fails, and its error is of the given kind. -/
def Fails (kind : ε → Bool) (x : Except ε α) : Prop := ∃ e, x = .error e ∧ kind e = true

section Fails

variable {kind : ε → Bool}

theorem not_fails_ok {a : α} : ¬ Fails kind (.ok a : Except ε α) := by
  rintro ⟨e, h, -⟩
  exact ok_ne_error h

theorem fails_error_iff {e : ε} : Fails kind (.error e : Except ε α) ↔ kind e = true := by
  constructor
  · rintro ⟨_, h, he⟩
    rwa [Except.error.inj h]
  · exact fun he => ⟨e, rfl, he⟩

theorem not_fails_error {e : ε} (h : kind e = false) : ¬ Fails kind (.error e : Except ε α) :=
  fun hfails => Bool.eq_false_iff.1 h (fails_error_iff.1 hfails)

/-- **A sequence of two steps fails in the first or, once that is done, in the second.** -/
theorem fails_bind_iff {x : Except ε α} {f : α → Except ε β} :
    Fails kind (x >>= f) ↔ Fails kind x ∨ ∃ a, x = .ok a ∧ Fails kind (f a) := by
  simp only [Fails, bind_eq_error_iff, or_and_right, exists_or]
  refine or_congr_right ⟨?_, ?_⟩
  · rintro ⟨e, ⟨a, ha, hfa⟩, he⟩
    exact ⟨a, ha, e, hfa, he⟩
  · rintro ⟨a, ha, e, hfa, he⟩
    exact ⟨e, ⟨a, ha, hfa⟩, he⟩

theorem fails_mapError_iff {kind : ε' → Bool} {x : Except ε α} {f : ε → ε'} :
    Fails kind (x.mapError f) ↔ Fails (kind ∘ f) x := by
  cases x with
  | error e =>
    change Fails kind (.error (f e)) ↔ _
    rw [fails_error_iff, fails_error_iff]
    rfl
  | ok a => exact iff_of_false not_fails_ok not_fails_ok

/-- A step all of whose errors are renamed to another kind never fails with this one. -/
theorem not_fails_mapError {kind : ε' → Bool} {f : ε → ε'} (h : ∀ e, kind (f e) = false)
    (x : Except ε α) : ¬ Fails kind (x.mapError f) := by
  rw [fails_mapError_iff]
  rintro ⟨e, -, he⟩
  exact Bool.eq_false_iff.1 (h e) he

/-- **A computation on a list fails in the first element without a result.** -/
theorem fails_mapM_iff {f : α → Except ε β} {as : List α} :
    Fails kind (as.mapM f) ↔ ∃ done a rest, as = done ++ a :: rest ∧
      (∀ b ∈ done, ∃ c, f b = .ok c) ∧ Fails kind (f a) := by
  constructor
  · rintro ⟨e, h, he⟩
    obtain ⟨done, a, rest, has, ⟨bs, hbs⟩, ha⟩ := mapM_eq_error_iff.1 h
    refine ⟨done, a, rest, has, fun b hb => ?_, e, ha, he⟩
    obtain ⟨c, -, hc⟩ := exists_of_mem_mapM_left hbs hb
    exact ⟨c, hc⟩
  · rintro ⟨done, a, rest, has, hdone, e, ha, he⟩
    obtain ⟨bs, hbs⟩ := exists_forall₂ hdone
    exact ⟨e, mapM_eq_error_iff.2 ⟨done, a, rest, has, ⟨bs, mapM_eq_ok_iff.2 hbs⟩, ha⟩, he⟩

end Fails

/-! ## Results in whatever order they are refused

A computation may go over a list more than once.  It has the results that one pass would have, but a
later element may be refused before an earlier one. -/

/-- The computation comes to the results of `f` on the list, or to a refusal of one of them. -/
structure Collects (x : Except ε (List β)) (f : α → Except ε β) (as : List α) : Prop where
  eq_ok_iff (bs : List β) : x = .ok bs ↔ as.mapM f = .ok bs
  exists_of_error {e : ε} (h : x = .error e) : ∃ a ∈ as, f a = .error e

theorem collects_mapM (f : α → Except ε β) (as : List α) : Collects (as.mapM f) f as where
  eq_ok_iff _ := Iff.rfl
  exists_of_error h := by
    obtain ⟨done, a, rest, rfl, -, ha⟩ := mapM_eq_error_iff.1 h
    exact ⟨a, List.mem_append_right _ List.mem_cons_self, ha⟩

namespace Collects

variable {γ δ : Type} {x y : Except ε (List β)} {f : α → Except ε β} {as as' : List α}

/-- **It is refused exactly if one of the elements is.** -/
theorem exists_error_iff (h : Collects x f as) :
    (∃ e, x = .error e) ↔ ∃ a ∈ as, ∃ e, f a = .error e := by
  constructor
  · rintro ⟨e, he⟩
    obtain ⟨a, ha, hfa⟩ := h.exists_of_error he
    exact ⟨a, ha, e, hfa⟩
  · rintro ⟨a, ha, e, he⟩
    cases hx : x with
    | error e' => exact ⟨e', rfl⟩
    | ok bs =>
      obtain ⟨b, -, hb⟩ := exists_of_mem_mapM_left ((h.eq_ok_iff bs).1 hx) ha
      exact absurd (hb.symm.trans he) ok_ne_error

/-- A second pass goes on from the results of the first. -/
theorem bind (h : Collects x f as) (g : β → Except ε γ) :
    Collects (x >>= fun bs => bs.mapM g) (fun a => f a >>= g) as where
  eq_ok_iff cs := by
    rw [mapM_bind_eq_ok_iff, bind_eq_ok_iff, bind_eq_ok_iff]
    simp only [h.eq_ok_iff]
  exists_of_error he := by
    obtain he | ⟨bs, hbs, he⟩ := bind_eq_error_iff.1 he
    · obtain ⟨a, ha, hfa⟩ := h.exists_of_error he
      exact ⟨a, ha, bind_eq_error_iff.2 (.inl hfa)⟩
    · obtain ⟨b, hb, hgb⟩ := (collects_mapM g bs).exists_of_error he
      obtain ⟨a, ha, hab⟩ := exists_of_mem_mapM ((h.eq_ok_iff bs).1 hbs) hb
      exact ⟨a, ha, bind_eq_error_iff.2 (.inr ⟨b, hab, hgb⟩)⟩

/-- The elements may be prepared beforehand. -/
theorem map {i : γ → α} {cs : List γ} (h : Collects x (fun c => f (i c)) cs) :
    Collects x f (cs.map i) where
  eq_ok_iff bs := by rw [List.mapM_map, h.eq_ok_iff]; rfl
  exists_of_error he := by
    obtain ⟨c, hc, hfc⟩ := h.exists_of_error he
    exact ⟨i c, List.mem_map_of_mem hc, hfc⟩

/-- Two lists may be gone over one after the other, each in its own way. -/
theorem append (h : Collects x f as) (h' : Collects y f as') :
    Collects (do return (← x) ++ (← y)) f (as ++ as') where
  eq_ok_iff bs := by
    rw [List.mapM_append]
    simp only [bind_eq_ok_iff, h.eq_ok_iff, h'.eq_ok_iff]
  exists_of_error he := by
    obtain he | ⟨_, -, he⟩ := bind_eq_error_iff.1 he
    · obtain ⟨a, ha, hfa⟩ := h.exists_of_error he
      exact ⟨a, List.mem_append_left _ ha, hfa⟩
    · obtain he | ⟨_, -, he⟩ := bind_eq_error_iff.1 he
      · obtain ⟨a, ha, hfa⟩ := h'.exists_of_error he
        exact ⟨a, List.mem_append_right _ ha, hfa⟩
      · exact absurd he ok_ne_error

/-- **A computation for each part collects what one over all parts does.** -/
theorem flatten {F : δ → Except ε (List β)} {parts : δ → List α} {ds : List δ}
    (h : ∀ d ∈ ds, Collects (F d) f (parts d)) :
    Collects ((ds.mapM F).map List.flatten) f (ds.flatMap parts) := by
  induction ds with
  | nil => exact collects_mapM f []
  | cons d ds ih =>
    obtain ⟨hd, hds⟩ := List.forall_mem_cons.1 h
    have hboth := hd.append (ih hds)
    rw [List.mapM_cons, List.flatMap_cons]
    convert hboth using 1
    cases F d with
    | error e => rfl
    | ok bs => cases ds.mapM F <;> rfl

end Collects

end CoinPuzzles.Outcome
