import CoinPuzzles.Proofs.Value.JsonPieces

/-!
# Proofs/Value/JsonReadBack — a document that is written is read back

A document that needs no escapes (`Plain`) is written in the same way in both forms, but for the
blanks between its parts (`listText`, `mapText`).  So either form is read back as the document
(`reads_compact`, `reads_indented`), whatever blanks follow it (`Reads.readWithin`); and neither has
a character that a file changes (`ne_return_compact`, `ne_return_indented`).
-/

namespace CoinPuzzles.Json

/-! ## Documents -/

/-- **A document that needs no escapes**, nested to at most the given number of levels: its texts
and keys are plain, its numbers are natural and can be written, and no key comes twice. -/
inductive Plain : Nat → Value → Prop
  | text {levels : Nat} {s : String} (h : ∀ c ∈ s.toList, isPlain c = true) : Plain levels (.text s)
  | natural {levels n : Nat} (h : (toString n).length ≤ Numeral.digitLimit) :
    Plain levels (.int n)
  | list {levels : Nat} {items : List Value} (h : ∀ v ∈ items, Plain levels v) :
    Plain (levels + 1) (.list items)
  | object {levels : Nat} {fields : List (String × Value)}
    (hkeys : ∀ f ∈ fields, ∀ c ∈ f.1.toList, isPlain c = true)
    (hdistinct : (fields.map (·.1)).Nodup) (h : ∀ f ∈ fields, Plain levels f.2) :
    Plain (levels + 1) (.object fields)

/-- A map whose keys are listed. -/
theorem Plain.ofNames {levels : Nat} {fields : List (String × Value)} (names : List String)
    (hnames : fields.map (·.1) = names) (hplain : names.all (fun k => k.toList.all isPlain) = true)
    (hdistinct : names.Nodup) (h : ∀ f ∈ fields, Plain levels f.2) :
    Plain (levels + 1) (.object fields) := by
  subst hnames
  refine .object (fun f hf => ?_) hdistinct h
  exact List.all_eq_true.1 (List.all_eq_true.1 hplain f.1 (List.mem_map_of_mem hf))

/-- **A new key is put at the end**, so the fields of an object with different keys keep their
order. -/
theorem put_object {k : String} {v : Value} : ∀ {fields : List (String × Value)},
    k ∉ fields.map (·.1) → Value.put (.text k) v (fields.map fun (k, v) => (.text k, v)) =
      (fields ++ [(k, v)]).map fun (k, v) => (.text k, v)
  | [], _ => rfl
  | (k', v') :: fields, h => by
    rw [List.map_cons, List.mem_cons, not_or] at h
    have hkeys : Value.sameKey (.text k') (.text k) = false := by
      change (k' == k) = false
      exact beq_eq_false_iff_ne.2 (Ne.symm h.1)
    rw [List.map_cons, Value.put, hkeys, if_neg Bool.false_ne_true, put_object h.2]
    rfl

section Layout

variable {room : Nat} {write : Value → List Char} {gap close colon : List Char}

/-- Items that are written one by one, with a comma between them. -/
theorem reads_items (hgap : ∀ c ∈ gap, isGap c = true) (hclose : ∀ c ∈ close, isGap c = true) :
    ∀ {v : Value} {vs : List Value}, (∀ w ∈ v :: vs, Reads room (write w) w) →
      ReadsItems room (write v ++ (vs.flatMap (fun w => ',' :: (gap ++ write w)) ++
        (close ++ [']']))) (v :: vs)
  | v, [], h => (h v List.mem_cons_self).singleton hclose
  | v, w :: vs, h => by
    obtain ⟨hv, hvs⟩ := List.forall_mem_cons.1 h
    have ih := (reads_items hgap hclose hvs).cons hv hgap
    simp only [List.flatMap_cons, List.cons_append, List.append_assoc] at ih ⊢
    exact ih

/-- The text of a field. -/
def fieldText (write : Value → List Char) (colon : List Char) (f : String × Value) : List Char :=
  entry f.1.toList colon (write f.2)

/-- The entries of fields. -/
def keyed (fields : List (String × Value)) : List (Value × Value) :=
  fields.map fun (k, v) => (.text k, v)

/-- Fields that are written one by one, with a comma between them. -/
theorem reads_fields (hgap : ∀ c ∈ gap, isGap c = true) (hclose : ∀ c ∈ close, isGap c = true)
    (hcolon : ∀ c ∈ colon, isGap c = true) : ∀ {done fields : List (String × Value)}
      {f : String × Value}, (∀ g ∈ f :: fields, ∀ c ∈ g.1.toList, isPlain c = true) →
      ((done ++ f :: fields).map (·.1)).Nodup → (∀ g ∈ f :: fields, Reads room (write g.2) g.2) →
      ReadsEntries room (keyed done) (fieldText write colon f ++
        (fields.flatMap (fun g => ',' :: (gap ++ fieldText write colon g)) ++ (close ++ ['\x7d'])))
        (keyed (done ++ f :: fields))
  | done, fields, f, hkeys, hdistinct, h => by
    obtain ⟨hf, hfields⟩ := List.forall_mem_cons.1 hkeys
    obtain ⟨hread, hreads⟩ := List.forall_mem_cons.1 h
    have hnew : f.1 ∉ done.map (·.1) := by
      rw [List.map_append, List.map_cons, List.nodup_append] at hdistinct
      intro hmem
      exact hdistinct.2.2 _ hmem _ List.mem_cons_self rfl
    have hput : Value.put (.text (String.ofList f.1.toList)) f.2 (keyed done) =
        keyed (done ++ [f]) := by
      rw [String.ofList_toList]
      exact put_object hnew
    match fields, hfields, hreads, hdistinct with
    | [], _, _, _ =>
      rw [← hput]
      exact hread.singletonEntry hf hcolon hclose
    | g :: fields, hfields, hreads, hdistinct =>
      have ih : ReadsEntries room (keyed (done ++ [f])) _ (keyed ((done ++ [f]) ++ g :: fields)) :=
        reads_fields hgap hclose hcolon hfields (by simpa using hdistinct) hreads
      rw [← hput] at ih
      have hcons := ih.cons hread hf hcolon hgap
      simp only [List.flatMap_cons, List.cons_append, List.append_assoc] at hcons ⊢
      exact hcons

/-- The text of a list, one item after the other. -/
def listText (write : Value → List Char) (gap close : List Char) : List Value → List Char
  | [] => ['[', ']']
  | v :: vs =>
    '[' :: (gap ++ (write v ++ (vs.flatMap (fun w => ',' :: (gap ++ write w)) ++ (close ++ [']']))))

/-- The text of a map, one field after the other. -/
def mapText (write : Value → List Char) (gap close colon : List Char) :
    List (String × Value) → List Char
  | [] => ['\x7b', '\x7d']
  | f :: fields =>
    '\x7b' :: (gap ++ (fieldText write colon f ++
      (fields.flatMap (fun g => ',' :: (gap ++ fieldText write colon g)) ++ (close ++ ['\x7d']))))

/-- **A list is read back from its layout**, if each item is from its own text. -/
theorem reads_listText (hgap : ∀ c ∈ gap, isGap c = true) (hclose : ∀ c ∈ close, isGap c = true)
    {vs : List Value} (h : ∀ v ∈ vs, Reads room (write v) v) :
    Reads (room + 1) (listText write gap close vs) (.list vs) := by
  cases vs with
  | nil => exact reads_emptyList
  | cons v vs => exact (reads_items hgap hclose h).reads hgap

/-- **A map is read back from its layout**, if each field is from its own text: the keys are plain
and different, so none replaces another. -/
theorem reads_mapText (hgap : ∀ c ∈ gap, isGap c = true) (hclose : ∀ c ∈ close, isGap c = true)
    (hcolon : ∀ c ∈ colon, isGap c = true) {fields : List (String × Value)}
    (hkeys : ∀ f ∈ fields, ∀ c ∈ f.1.toList, isPlain c = true)
    (hdistinct : (fields.map (·.1)).Nodup) (h : ∀ f ∈ fields, Reads room (write f.2) f.2) :
    Reads (room + 1) (mapText write gap close colon fields) (.object fields) := by
  cases fields with
  | nil => exact reads_emptyMap
  | cons f fields =>
    have hfields : ReadsEntries room (keyed []) _ (keyed ([] ++ f :: fields)) :=
      reads_fields hgap hclose hcolon hkeys hdistinct h
    exact hfields.reads hgap

/-! ### Characters

What holds of every character of the parts, and of the marks between them, holds of the whole. -/

variable {p : Char → Prop}

/-- What holds of the marks, the gaps and the characters of every item holds of the characters of
the list. -/
theorem forall_mem_listText (hmarks : ∀ c ∈ ['[', ',', ']'], p c) (hgap : ∀ c ∈ gap, p c)
    (hclose : ∀ c ∈ close, p c) {vs : List Value} (h : ∀ v ∈ vs, ∀ c ∈ write v, p c) :
    ∀ c ∈ listText write gap close vs, p c := by
  simp only [List.forall_mem_cons, List.not_mem_nil, false_imp_iff, implies_true, and_true]
    at hmarks
  cases vs with
  | nil => simp [listText, hmarks]
  | cons v vs =>
    obtain ⟨hv, hvs⟩ := List.forall_mem_cons.1 h
    have hrest : ∀ c ∈ vs.flatMap (fun w => ',' :: (gap ++ write w)), p c := by
      intro c hc
      obtain ⟨w, hw, hc⟩ := List.mem_flatMap.1 hc
      exact List.forall_mem_cons.2 ⟨hmarks.2.1, List.forall_mem_append.2 ⟨hgap, hvs w hw⟩⟩ c hc
    simp only [listText, List.forall_mem_cons, List.forall_mem_append, List.not_mem_nil,
      false_imp_iff, implies_true, and_true]
    exact ⟨hmarks.1, hgap, hv, hrest, hclose, hmarks.2.2⟩

/-- What holds of the marks, the gaps, the keys and the characters of every value holds of the
characters of the map. -/
theorem forall_mem_mapText (hmarks : ∀ c ∈ ['\x7b', ',', ':', '\x22', '\x7d'], p c)
    (hgap : ∀ c ∈ gap, p c) (hclose : ∀ c ∈ close, p c) (hcolon : ∀ c ∈ colon, p c)
    {fields : List (String × Value)} (hkeys : ∀ f ∈ fields, ∀ c ∈ f.1.toList, p c)
    (h : ∀ f ∈ fields, ∀ c ∈ write f.2, p c) :
    ∀ c ∈ mapText write gap close colon fields, p c := by
  simp only [List.forall_mem_cons, List.not_mem_nil, false_imp_iff, implies_true, and_true]
    at hmarks
  obtain ⟨hopen, hcomma, hpoint, hquote, hend⟩ := hmarks
  have hfield : ∀ f ∈ fields, ∀ c ∈ fieldText write colon f, p c := by
    intro f hf
    simp only [fieldText, entry, List.forall_mem_cons, List.forall_mem_append]
    exact ⟨hquote, hkeys f hf, hquote, hpoint, hcolon, h f hf⟩
  cases fields with
  | nil => simp [mapText, hopen, hend]
  | cons f fields =>
    obtain ⟨hf, hfields⟩ := List.forall_mem_cons.1 hfield
    have hrest : ∀ c ∈ fields.flatMap (fun g => ',' :: (gap ++ fieldText write colon g)), p c := by
      intro c hc
      obtain ⟨g, hg, hc⟩ := List.mem_flatMap.1 hc
      exact List.forall_mem_cons.2 ⟨hcomma, List.forall_mem_append.2 ⟨hgap, hfields g hg⟩⟩ c hc
    simp only [mapText, List.forall_mem_cons, List.forall_mem_append, List.not_mem_nil,
      false_imp_iff, implies_true, and_true]
    exact ⟨hopen, hgap, hf, hrest, hclose, hend⟩

end Layout

/-! ## The two forms -/

theorem toList_quoted_keyText {k : String} (h : ∀ c ∈ k.toList, isPlain c = true) :
    (quoted (keyText (.text k))).toList = '\x22' :: (k.toList ++ ['\x22']) := toList_quoted h

section Compact

theorem toList_compactItems (vs : List Value) :
    (compactItems vs).toList = vs.flatMap fun v => ',' :: ([] ++ (compact v).toList) := by
  induction vs with
  | nil => rfl
  | cons v vs ih =>
    rw [compactItems, String.toList_append, String.toList_append, ih]
    rfl

/-- **The compact text of a list** is its layout without any gaps. -/
theorem toList_compact_list (vs : List Value) :
    (compact (.list vs)).toList = listText (fun v => (compact v).toList) [] [] vs := by
  cases vs with
  | nil => rfl
  | cons v vs =>
    rw [compact, String.toList_append, String.toList_append, String.toList_append,
      toList_compactItems]
    simp only [listText, List.nil_append, List.append_assoc]
    rfl

variable {fields : List (String × Value)}

theorem toList_compactEntries (h : ∀ f ∈ fields, ∀ c ∈ f.1.toList, isPlain c = true) :
    (compactEntries (keyed fields)).toList =
      fields.flatMap fun f => ',' :: ([] ++ fieldText (fun v => (compact v).toList) [] f) := by
  induction fields with
  | nil => rfl
  | cons f fields ih =>
    obtain ⟨hf, hfields⟩ := List.forall_mem_cons.1 h
    have ih := ih hfields
    rw [keyed] at ih ⊢
    rw [List.map_cons, compactEntries]
    simp only [String.toList_append, toList_quoted_keyText hf, ih, List.flatMap_cons, fieldText,
      entry, List.nil_append, List.cons_append, List.append_assoc]
    rfl

/-- **The compact text of an object** is its layout without any gaps. -/
theorem toList_compact_object (h : ∀ f ∈ fields, ∀ c ∈ f.1.toList, isPlain c = true) :
    (compact (.object fields)).toList = mapText (fun v => (compact v).toList) [] [] [] fields := by
  cases fields with
  | nil => rfl
  | cons f fields =>
    obtain ⟨hf, hfields⟩ := List.forall_mem_cons.1 h
    have hrest := toList_compactEntries hfields
    rw [keyed] at hrest
    rw [Value.object, List.map_cons, compact]
    simp only [String.toList_append, toList_quoted_keyText hf, hrest, mapText, fieldText, entry,
      List.nil_append, List.cons_append, List.append_assoc]
    rfl

end Compact

/-- **The compact form of a document that needs no escapes is read back as it.** -/
theorem reads_compact {levels : Nat} {v : Value} (h : Plain levels v) :
    Reads levels (compact v).toList v := by
  have hnone : ∀ c ∈ [], isGap c = true := by simp
  induction h with
  | text h => exact reads_text h
  | natural h => exact reads_natural h
  | list h ih =>
    rw [toList_compact_list]
    exact reads_listText hnone hnone ih
  | object hkeys hdistinct h ih =>
    rw [toList_compact_object hkeys]
    exact reads_mapText hnone hnone hnone hkeys hdistinct ih

section Indented

variable (level : Nat)

/-- A new line and its indentation are blanks only, so they may stand in any gap. -/
theorem isGap_of_mem_newline {level : Nat} : ∀ c ∈ (newline level).toList, isGap c = true := by
  rw [newline, String.toList_ofList]
  intro c hc
  rcases List.mem_cons.1 hc with rfl | hc
  · decide
  · rw [List.eq_of_mem_replicate hc]
    decide

/-- The items after the first are written each on a line of its own, behind a comma. -/
theorem toList_indentedItems (vs : List Value) : (indentedItems level vs).toList =
    vs.flatMap fun v => ',' :: ((newline level).toList ++ (indented level v).toList) := by
  induction vs with
  | nil => rfl
  | cons v vs ih =>
    rw [indentedItems]
    simp only [String.toList_append, ih, List.flatMap_cons, List.cons_append, List.append_assoc]
    rfl

/-- **The indented text of a list** is its layout with a line for each item, and one more for the
bracket that closes it. -/
theorem toList_indented_list (vs : List Value) : (indented level (.list vs)).toList =
    listText (fun v => (indented (level + 1) v).toList) (newline (level + 1)).toList
      (newline level).toList vs := by
  cases vs with
  | nil =>
    rw [indented]
    · rfl
    all_goals nofun
  | cons v vs =>
    rw [indented]
    simp only [String.toList_append, toList_indentedItems, listText, List.append_assoc]
    rfl

variable {fields : List (String × Value)}

/-- The fields after the first are written each on a line of its own, behind a comma. -/
theorem toList_indentedEntries (h : ∀ f ∈ fields, ∀ c ∈ f.1.toList, isPlain c = true) :
    (indentedEntries level (keyed fields)).toList = fields.flatMap fun f =>
      ',' :: ((newline level).toList ++
        fieldText (fun v => (indented level v).toList) [' '] f) := by
  induction fields with
  | nil => rfl
  | cons f fields ih =>
    obtain ⟨hf, hfields⟩ := List.forall_mem_cons.1 h
    have ih := ih hfields
    rw [keyed] at ih ⊢
    rw [List.map_cons, indentedEntries]
    simp only [String.toList_append, toList_quoted_keyText hf, ih, List.flatMap_cons, fieldText,
      entry, List.cons_append, List.append_assoc]
    rfl

/-- **The indented text of an object** is its layout with a line for each field, and a blank after
each colon. -/
theorem toList_indented_object (h : ∀ f ∈ fields, ∀ c ∈ f.1.toList, isPlain c = true) :
    (indented level (.object fields)).toList =
      mapText (fun v => (indented (level + 1) v).toList) (newline (level + 1)).toList
        (newline level).toList [' '] fields := by
  cases fields with
  | nil =>
    rw [Value.object, List.map_nil, indented]
    · rfl
    all_goals nofun
  | cons f fields =>
    obtain ⟨hf, hfields⟩ := List.forall_mem_cons.1 h
    have hrest := toList_indentedEntries (level + 1) hfields
    rw [keyed] at hrest
    rw [Value.object, List.map_cons, indented]
    simp only [String.toList_append, toList_quoted_keyText hf, hrest, mapText, fieldText, entry,
      List.cons_append, List.append_assoc]
    rfl

end Indented

/-- **So is the indented form**, at whatever level it begins. -/
theorem reads_indented {levels : Nat} {v : Value} (h : Plain levels v) :
    ∀ level, Reads levels (indented level v).toList v := by
  induction h with
  | text h => exact fun _ => reads_text h
  | natural h => exact fun _ => reads_natural h
  | list h ih =>
    intro level
    rw [toList_indented_list]
    exact reads_listText isGap_of_mem_newline isGap_of_mem_newline fun v hv => ih v hv (level + 1)
  | object hkeys hdistinct h ih =>
    intro level
    rw [toList_indented_object level hkeys]
    exact reads_mapText isGap_of_mem_newline isGap_of_mem_newline
      (List.forall_mem_singleton.2 rfl) hkeys hdistinct fun f hf => ih f hf (level + 1)

/-! ## Line ends

Neither form has a carriage return, so a file keeps it as it is. -/

theorem isPlain_ne_return {c : Char} (h : isPlain c = true) : c ≠ '\r' := by
  rintro rfl
  exact absurd h (by decide)

theorem ne_return_quoted {s : String} (h : ∀ c ∈ s.toList, isPlain c = true) :
    ∀ c ∈ (quoted s).toList, c ≠ '\r' := by
  rw [toList_quoted h, List.forall_mem_cons, List.forall_mem_append, List.forall_mem_singleton]
  exact ⟨by decide, fun c hc => isPlain_ne_return (h c hc), by decide⟩

theorem ne_return_natural (n : Nat) : ∀ c ∈ (toString n).toList, c ≠ '\r' := by
  have hdigits : (toString n).toList = Nat.toDigits 10 n := String.toList_ofList
  rw [hdigits]
  rintro c hc rfl
  exact absurd (Nat.isDigit_of_mem_toDigits (by decide) (by decide) hc) (by decide)

/-- **Compact texts hold no carriage return**, so unifying the ends of lines leaves them as they
are. -/
theorem ne_return_compact {levels : Nat} {v : Value} (h : Plain levels v) :
    ∀ c ∈ (compact v).toList, c ≠ '\r' := by
  have hnone : ∀ c ∈ [], c ≠ '\r' := by simp
  induction h with
  | text h => exact ne_return_quoted h
  | natural _ => exact ne_return_natural _
  | list h ih =>
    rw [toList_compact_list]
    exact forall_mem_listText (by simp) hnone hnone ih
  | object hkeys _ h ih =>
    rw [toList_compact_object hkeys]
    exact forall_mem_mapText (by simp) hnone hnone hnone
      (fun f hf c hc => isPlain_ne_return (hkeys f hf c hc)) ih

theorem ne_return_newline {level : Nat} : ∀ c ∈ (newline level).toList, c ≠ '\r' := by
  rw [newline, String.toList_ofList, List.forall_mem_cons]
  refine ⟨by decide, fun c hc => ?_⟩
  rw [List.eq_of_mem_replicate hc]
  decide

/-- **Indented texts hold no carriage return** either, at whatever level they begin. -/
theorem ne_return_indented {levels : Nat} {v : Value} (h : Plain levels v) :
    ∀ level, ∀ c ∈ (indented level v).toList, c ≠ '\r' := by
  induction h with
  | text h => exact fun _ => ne_return_quoted h
  | natural _ => exact fun _ => ne_return_natural _
  | list h ih =>
    intro level
    rw [toList_indented_list]
    exact forall_mem_listText (by simp) ne_return_newline ne_return_newline
      fun v hv => ih v hv (level + 1)
  | object hkeys _ h ih =>
    intro level
    rw [toList_indented_object level hkeys]
    exact forall_mem_mapText (by simp) ne_return_newline ne_return_newline (by simp)
      (fun f hf c hc => isPlain_ne_return (hkeys f hf c hc)) fun f hf => ih f hf (level + 1)

/-- **A text that is read as a value is its document**, blanks after it not counted. -/
theorem Reads.readWithin {levels : Nat} {text : String} {v : Value} {gap : List Char}
    (h : Reads levels text.toList v) (hgap : ∀ c ∈ gap, isGap c = true) :
    readWithin levels (text ++ String.ofList gap) = .ok v := by
  have hstarts := h.starts.append gap
  have hvalue : value (2 * (text.toList ++ gap).length + 1) levels (text.toList ++ gap) =
      .ok (v, gap) := by
    refine h.read (by simp; omega) ?_
    rw [← List.append_nil gap]
    exact avoids_append hgap (by rintro _ ⟨⟩)
  rw [Json.readWithin, String.toList_append, String.toList_ofList]
  dsimp only
  rw [skipBlanks_eq_self hstarts.avoids, hvalue]
  have hleft : skipBlanks gap = [] := by
    rw [← List.append_nil gap, skipBlanks_append hgap (by rintro _ ⟨⟩)]
  change (if (skipBlanks gap).isEmpty = true then _ else _) = _
  rw [hleft]
  rfl

end CoinPuzzles.Json
