import CoinPuzzles.Proofs.Settings.Usable
import CoinPuzzles.Proofs.Value.Scalars

/-!
# Proofs/Settings/Refusals — which failures of loading are refusals of a setting

A setting that is no good is refused with an error of its own.  Some values escape the checks: they
stop a conversion, or the writing of the message, with an error of another kind.  The settings are
checked in a fixed order (`RawSettings.check_eq_error_iff`), so what the first one that is not let
through does decides.  Main statement: when loading escapes (`Settings.load_escapes_iff`).
-/

namespace CoinPuzzles

open Outcome (error_ne_ok ok_ne_error)

/-! ## Refusals and escapes -/

/-- Whether a failure is the refusal of a setting or of the file. -/
def LoadError.isRefusal : LoadError → Bool
  | .settings _ => true
  | _ => false

/-- The computation fails, and not with a refusal. -/
def Escapes {α : Type} (x : Except LoadError α) : Prop := ∃ e, x = .error e ∧ e.isRefusal = false

section

variable {α β : Type} {a : α} {e : LoadError}

/-- Escaping is a failure of one kind, that of what is no refusal. -/
theorem escapes_iff_fails {x : Except LoadError α} :
    Escapes x ↔ Outcome.Fails (fun e => !e.isRefusal) x := by
  simp only [Escapes, Outcome.Fails, Bool.not_eq_true']

theorem not_escapes_ok : ¬Escapes (.ok a : Except LoadError α) :=
  escapes_iff_fails.not.2 Outcome.not_fails_ok

theorem escapes_error_iff : Escapes (.error e : Except LoadError α) ↔ e.isRefusal = false := by
  rw [escapes_iff_fails, Outcome.fails_error_iff, Bool.not_eq_true']

theorem not_escapes_settings {cause : SettingsError} :
    ¬Escapes (.error (.settings cause) : Except LoadError α) := by
  simp [escapes_error_iff, LoadError.isRefusal]

/-- **A sequence of two steps escapes in the first or, once that is done, in the second.** -/
theorem escapes_bind_iff {x : Except LoadError α} {f : α → Except LoadError β} :
    Escapes (x >>= f) ↔ Escapes x ∨ ∃ a, x = .ok a ∧ Escapes (f a) := by
  simp only [escapes_iff_fails, Outcome.fails_bind_iff]

theorem escapes_map_iff {x : Except LoadError α} {f : α → β} : Escapes (x.map f) ↔ Escapes x := by
  cases x with
  | error e => exact escapes_error_iff.trans escapes_error_iff.symm
  | ok a => exact iff_of_false not_escapes_ok not_escapes_ok

end

/-! ## Values in messages -/

namespace RawSettings

variable {v : Value} {given : Option Value}

theorem shown_eq_ok (h : v.isWritable = true) : shown v = .ok v.display := by
  rw [shown, Value.write, if_pos h]
  rfl

/-- **A value escapes where it is shown exactly if one of its integers has too many digits.** -/
theorem escapes_shown_iff : Escapes (shown v) ↔ v.isWritable = false := by
  rw [shown, Value.write]
  split
  · next h => exact iff_of_false not_escapes_ok (by simp [h])
  · next h => exact iff_of_true (escapes_error_iff.2 rfl) (by simpa using h)

/-- A default is a text already, so only a value that is given can escape. -/
theorem escapes_textOr_iff {default : String} :
    Escapes (textOr default given) ↔ ∃ v, given = some v ∧ v.isWritable = false := by
  cases given with
  | none => exact iff_of_false not_escapes_ok (by simp)
  | some v =>
    rw [textOr, escapes_shown_iff]
    simp

/-- **The refusal of a value escapes exactly if the value cannot be written.** -/
theorem escapes_refuse_iff {α : Type} {cause : String → SettingsError} :
    Escapes (refuse v cause : Except LoadError α) ↔ v.isWritable = false := by
  rw [refuse, escapes_bind_iff, escapes_shown_iff]
  simp [escapes_error_iff, LoadError.isRefusal]

end RawSettings

namespace Value

/-- A number has no more digits than bits. -/
theorem lt_ten_pow {n limit : Nat} (h : n.log2 + 1 ≤ limit) : n < 10 ^ limit :=
  calc n < 2 ^ (n.log2 + 1) := Nat.lt_log2_self
    _ ≤ 10 ^ (n.log2 + 1) := Nat.pow_le_pow_left (by decide) _
    _ ≤ 10 ^ limit := Nat.pow_le_pow_right (by decide) h

/-- **An integer that a floating-point number can be near to can be written.** -/
theorem isWritable_of_ofInt? {n : Int} {x : Binary64} (h : Binary64.ofInt? n = some x) :
    (int n).isWritable = true := by
  refine isWritable_int_iff.2 (lt_ten_pow ?_)
  by_cases hzero : n.natAbs = 0
  · rw [hzero]
    decide
  obtain ⟨m, e, he, hquotient⟩ :=
    Binary64.exists_ofQuotient_eq hzero (decide (n < 0)) 1
  -- with more bits than that it would be rounded to an infinite number
  by_contra hlarge
  have hone : Nat.log2 1 = 0 := by decide
  have hlimit : Numeral.digitLimit = 4300 := rfl
  rw [Binary64.ofInt?, hquotient, if_pos (by omega)] at h
  cases h

end Value

/-! ## Addresses that cannot be taken apart -/

/-- The brackets of the authority do not fit, or one of its characters stands for one that ends
it. -/
def Url.IsMalformed (url : String) : Prop :=
  (∃ cause, checkBrackets (placeOf url) = .error cause) ∨
    ∃ c ∈ placeOf url, c.toNat ∈ lookalikes

/-- **An address cannot be taken apart exactly if its place is malformed**: by its brackets or by a
lookalike. -/
theorem Url.exists_isService_eq_error_iff {url : String} :
    (∃ cause, isService url = .error cause) ↔ IsMalformed url := by
  rw [isService_eq, IsMalformed]
  cases checkBrackets (placeOf url) with
  | error cause => exact iff_of_true ⟨cause, rfl⟩ (.inl ⟨cause, rfl⟩)
  | ok _ =>
    change (∃ cause, (if (placeOf url).any (fun c => lookalikes.contains c.toNat) = true then _
      else _) = Except.error cause) ↔ _
    split
    · next h =>
      simp only [List.any_eq_true, List.contains_iff_mem] at h
      exact iff_of_true ⟨_, rfl⟩ (.inr h)
    · next h =>
      simp only [List.any_eq_true, List.contains_iff_mem] at h
      exact iff_of_false (by rintro ⟨_, h⟩; cases h) (by rintro (⟨_, h⟩ | h'); cases h; exact h h')

/-! ## What escapes each check -/

namespace RawSettings

variable {home : Path} {v : Value} {given : Option Value}

/-- The name of an executor is compared as a text, so it escapes where it has none. -/
theorem escapes_checkExecutor_iff :
    Escapes (checkExecutor given) ↔ ∃ v, given = some v ∧ v.isWritable = false := by
  rw [checkExecutor, escapes_bind_iff, escapes_textOr_iff, or_iff_left]
  rintro ⟨text, -, h⟩
  dsimp only at h
  split at h
  · exact not_escapes_ok h
  · exact not_escapes_settings h

/-- The text that an address is taken from: a text itself, or a byte string in ASCII. -/
def addressText? : Value → Option String
  | .text s => some s
  | .bytes b => b.toAscii?
  | _ => none

/-- **A value escapes the check of an address** unless it counts as false or has a text that can be
taken apart. -/
theorem escapes_checkUrl_iff : Escapes (checkUrl given) ↔ ∃ v, given = some v ∧ v.truthy = true ∧
    ∀ url, addressText? v = some url → Url.IsMalformed url := by
  cases given with
  | none => exact iff_of_false not_escapes_ok (by simp)
  | some v =>
    rw [checkUrl.eq_def]
    simp only [Option.some.injEq, exists_eq_left']
    split
    · next h => exact iff_of_false not_escapes_ok (by simp_all)
    · next h =>
      have htruthy : v.truthy = true := by simpa using h
      simp only [htruthy, true_and, ← Url.exists_isService_eq_error_iff]
      cases v with
      | text url =>
        simp only [addressText?, Option.some.injEq, forall_eq']
        cases Url.isService url with
        | error cause => exact iff_of_true (escapes_error_iff.2 rfl) ⟨cause, rfl⟩
        | ok fine =>
          cases fine with
          | true => exact iff_of_false not_escapes_ok (by simp)
          | false => exact iff_of_false not_escapes_settings (by simp)
      | bytes b =>
        rw [addressText?]
        dsimp only
        cases b.toAscii? with
        | none => exact iff_of_true (escapes_error_iff.2 rfl) (by simp)
        | some url =>
          simp only [Option.map_some, Option.some.injEq, forall_eq']
          cases Url.isService url with
          | error cause => exact iff_of_true (escapes_error_iff.2 rfl) ⟨cause, rfl⟩
          | ok fine => exact iff_of_false not_escapes_settings (by simp)
      | _ => exact iff_of_true (escapes_error_iff.2 rfl) (by simp [addressText?])

/-- **A directory escapes if it has no text, or names a home that nobody has**; a value that counts
as absent is never looked at. -/
theorem escapes_checkTemplates_iff : Escapes (checkTemplates home given) ↔
    ∃ v, given = some v ∧ v.truthy = true ∧
      (v.isWritable = false ∨ (Path.ofText v.display).expandHome? home = none) := by
  cases given with
  | none => exact iff_of_false not_escapes_ok (by simp)
  | some v =>
    rw [checkTemplates]
    simp only [Option.some.injEq, exists_eq_left']
    split
    · next h => exact iff_of_false not_escapes_ok (by simp_all)
    · next h =>
      have htruthy : v.truthy = true := by simpa using h
      simp only [htruthy, true_and]
      cases hwritable : v.isWritable with
      | false =>
        refine iff_of_true ?_ (.inl rfl)
        exact escapes_bind_iff.2 (.inl (escapes_shown_iff.2 hwritable))
      | true =>
        rw [shown_eq_ok hwritable]
        dsimp only [bind, Except.bind]
        cases (Path.ofText v.display).expandHome? home with
        | none => exact iff_of_true (escapes_error_iff.2 rfl) (.inr rfl)
        | some p => exact iff_of_false not_escapes_ok (by simp)

/-- **A value escapes the conversion to a floating-point number** if it is an integer out of range,
or no number at all and cannot be written. -/
theorem escapes_toReal_iff {name : String} : Escapes (toReal name v) ↔
    (∃ n, v = .int n ∧ Binary64.ofInt? n = none) ∨
      (v.isWritable = false ∧ ∀ n, v ≠ .int n) := by
  rw [toReal.eq_def]
  cases v with
  | text s =>
    dsimp only
    split
    · exact iff_of_false not_escapes_ok (by simp [Value.isWritable])
    · exact escapes_refuse_iff.trans (by simp)
  | bytes b =>
    dsimp only
    split
    · exact iff_of_false not_escapes_ok (by simp [Value.isWritable])
    · exact escapes_refuse_iff.trans (by simp)
  | bool b =>
    have hfits : (Binary64.ofInt? (if b then 1 else 0)).isSome = true := by
      cases b <;> decide +kernel
    obtain ⟨x, hx⟩ := Option.isSome_iff_exists.1 hfits
    dsimp only
    rw [hx]
    exact iff_of_false not_escapes_ok (by simp [Value.isWritable])
  | int n =>
    dsimp only
    split
    · next x hx => exact iff_of_false not_escapes_ok (by simp [hx])
    · next hx => exact iff_of_true (escapes_error_iff.2 rfl) (.inl ⟨n, rfl, hx⟩)
  | float x => exact iff_of_false not_escapes_ok (by simp [Value.isWritable])
  | _ => exact escapes_refuse_iff.trans (by simp)

/-- A value that has been converted to a floating-point number can be written. -/
theorem isWritable_of_toReal {name : String} {x : Binary64} (h : toReal name v = .ok x) :
    v.isWritable = true := by
  by_contra hnot
  have hescapes : Escapes (toReal name v) := by
    rw [escapes_toReal_iff]
    cases v with
    | int n =>
      refine .inl ⟨n, rfl, ?_⟩
      cases hx : Binary64.ofInt? n with
      | none => rfl
      | some y => exact absurd (Value.isWritable_of_ofInt? hx) hnot
    | _ => exact .inr ⟨by simpa using hnot, by simp⟩
  rw [h] at hescapes
  exact not_escapes_ok hescapes

/-- **A timeout escapes as an integer too large for a floating-point number**, or as any other value
that can be neither read nor shown. -/
theorem escapes_checkTimeout_iff : Escapes (checkTimeout given) ↔ ∃ v, given = some v ∧
    ((∃ n, v = .int n ∧ Binary64.ofInt? n = none) ∨
      (v.isWritable = false ∧ ∀ n, v ≠ .int n)) := by
  cases given with
  | none => exact iff_of_false not_escapes_ok (by simp)
  | some v =>
    simp only [Option.some.injEq, exists_eq_left']
    rw [checkTimeout, escapes_bind_iff, escapes_toReal_iff, or_iff_left]
    rintro ⟨x, hx, h⟩
    split at h
    · exact absurd (escapes_refuse_iff.1 h) (by simp [isWritable_of_toReal hx])
    · exact not_escapes_ok h

/-- **A value escapes the conversion to an integer** if it is an infinite number, or no number at
all and cannot be written. -/
theorem escapes_toWhole_iff {name : String} : Escapes (toWhole name v) ↔
    (∃ negative, v = .float (.infinite negative)) ∨
      (v.isWritable = false ∧ ∀ n, v ≠ .int n) := by
  rw [toWhole.eq_def]
  cases v with
  | text s =>
    dsimp only
    split
    · exact iff_of_false not_escapes_ok (by simp [Value.isWritable])
    · exact escapes_refuse_iff.trans (by simp)
  | bytes b =>
    dsimp only
    split
    · exact iff_of_false not_escapes_ok (by simp [Value.isWritable])
    · exact escapes_refuse_iff.trans (by simp)
  | bool b => exact iff_of_false not_escapes_ok (by simp [Value.isWritable])
  | int n => exact iff_of_false not_escapes_ok (by simp)
  | float x =>
    cases x with
    | infinite negative => exact iff_of_true (escapes_error_iff.2 rfl) (.inl ⟨negative, rfl⟩)
    | nan => exact escapes_refuse_iff.trans (by simp)
    | finite negative m e => exact iff_of_false not_escapes_ok (by simp [Value.isWritable])
  | _ => exact escapes_refuse_iff.trans (by simp)

/-- Of the values that cannot be written only the integers are converted to one. -/
theorem eq_int_of_toWhole {name : String} {n : Int} (h : toWhole name v = .ok n)
    (hwritable : v.isWritable = false) : v = .int n := by
  cases v with
  | int m => exact congrArg Value.int (Except.ok.inj h)
  | list items => exact absurd h refuse_ne_ok
  | map entries => exact absurd h refuse_ne_ok
  | _ => simp [Value.isWritable] at hwritable

/-- **A number of workers escapes as an infinite one**, which has no whole part, or where the
refusal cannot show it; a positive integer is never shown. -/
theorem escapes_checkWorkers_iff : Escapes (checkWorkers given) ↔ ∃ v, given = some v ∧
    ((∃ negative, v = .float (.infinite negative)) ∨
      (v.isWritable = false ∧ ∀ n, v = .int n → n ≤ 0)) := by
  cases given with
  | none => exact iff_of_false not_escapes_ok (by simp)
  | some v =>
    simp only [Option.some.injEq, exists_eq_left']
    rw [checkWorkers, escapes_bind_iff, escapes_toWhole_iff]
    constructor
    · rintro ((hinfinite | ⟨hwritable, hother⟩) | ⟨n, hn, h⟩)
      · exact .inl hinfinite
      · exact .inr ⟨hwritable, fun n hn => absurd hn (hother n)⟩
      · split at h
        · next hle =>
          have hwritable := escapes_refuse_iff.1 h
          obtain rfl := eq_int_of_toWhole hn hwritable
          exact .inr ⟨hwritable, fun m hm => Value.int.inj hm ▸ hle⟩
        · exact absurd h not_escapes_ok
    · rintro (hinfinite | ⟨hwritable, hle⟩)
      · exact .inl (.inl hinfinite)
      · -- an integer passes the conversion and is written only when it is refused
        by_cases hint : ∃ n, v = .int n
        · obtain ⟨n, rfl⟩ := hint
          refine .inr ⟨n, rfl, ?_⟩
          rw [if_pos (hle n rfl)]
          exact escapes_refuse_iff.2 hwritable
        · exact .inl (.inr ⟨hwritable, not_exists.1 hint⟩)

/-- A challenge is read from its text, so it escapes where it has none. -/
theorem escapes_checkChallenge_iff :
    Escapes (checkChallenge given) ↔ ∃ v, given = some v ∧ v.isWritable = false := by
  rw [checkChallenge, escapes_bind_iff, escapes_textOr_iff, or_iff_left]
  rintro ⟨text, -, h⟩
  dsimp only at h
  split at h
  · exact not_escapes_settings h
  · split at h
    · exact not_escapes_ok h
    · exact not_escapes_settings h

end RawSettings

/-! ## The order of the checks -/

/-- What is checked; `service` is the check that a service has an address. -/
inductive Setting where
  | executor
  | executorUrl
  | service
  | templates
  | brunPath
  | timeout
  | maxWorkers
  | genesisChallenge
deriving DecidableEq

namespace Setting

/-- The order of the checks. -/
def order : List Setting :=
  [executor, executorUrl, service, templates, brunPath, timeout, maxWorkers, genesisChallenge]

/-- What is checked before. -/
def earlier (x : Setting) : List Setting := order.takeWhile (· != x)

theorem exists_order_eq (x : Setting) : ∃ rest, order = x.earlier ++ x :: rest := by
  cases x <;> exact ⟨_, rfl⟩

/-- **What stands before a setting is fixed**, as no setting is checked twice. -/
theorem eq_earlier {x : Setting} {done rest : List Setting} (h : order = done ++ x :: rest) :
    done = x.earlier := by
  have hnodup : (done ++ x :: rest).Nodup := h ▸ by decide
  have hfresh : ∀ y ∈ done, (y != x) = true := fun y hy =>
    bne_iff_ne.2 ((List.nodup_append.1 hnodup).2.2 y hy x List.mem_cons_self)
  rw [earlier, h, List.takeWhile_append_of_pos hfresh, List.takeWhile_cons_of_neg (by simp),
    List.append_nil]

end Setting

section

variable {α β γ ε : Type}

/-- A run over a list that only checks is refused by its first element that is refused. -/
theorem forM_eq_error_iff {f : α → Except ε PUnit} {as : List α} {e : ε} :
    forM as f = .error e ↔ ∃ done a rest, as = done ++ a :: rest ∧
      (∀ d ∈ done, f d = .ok ()) ∧ f a = .error e := by
  induction as with
  | nil =>
    constructor
    · intro h
      exact absurd h ok_ne_error
    · rintro ⟨done, a, rest, h, -⟩
      exact absurd h.symm (List.append_ne_nil_of_right_ne_nil _ (List.cons_ne_nil _ _))
  | cons a as ih =>
    rw [List.forM_cons, Outcome.bind_eq_error_iff]
    constructor
    · rintro (h | ⟨_, ha, h⟩)
      · exact ⟨[], a, as, rfl, List.forall_mem_nil _, h⟩
      · obtain ⟨done, c, rest, rfl, hdone, hc⟩ := ih.1 h
        exact ⟨a :: done, c, rest, rfl, List.forall_mem_cons.2 ⟨ha, hdone⟩, hc⟩
    · rintro ⟨done, c, rest, h, hdone, hc⟩
      cases done with
      | nil =>
        obtain ⟨rfl, rfl⟩ := List.cons.inj h
        exact .inl hc
      | cons d done =>
        obtain ⟨rfl, rfl⟩ := List.cons.inj h
        obtain ⟨hd, hdone⟩ := List.forall_mem_cons.1 hdone
        exact .inr ⟨(), hd, ih.2 ⟨done, c, rest, rfl, hdone, hc⟩⟩

/-- A step may be replaced by its check if nothing of its result is seen in the end. -/
theorem map_bind_of_const {x : Except ε α} {f : α → Except ε β} {g : β → γ}
    {y : Unit → Except ε γ} (h : ∀ a, (f a).map g = y ()) :
    (x >>= f).map g = x.map (fun _ => ()) >>= y := by
  cases x with
  | error e => rfl
  | ok a => exact h a

end

namespace RawSettings

variable {home : Path} {raw : RawSettings}

/-- What one check says. -/
def verdict (home : Path) (raw : RawSettings) : Setting → Except LoadError Unit
  | .executor => (checkExecutor raw.executor).map fun _ => ()
  | .executorUrl => (checkUrl raw.executorUrl).map fun _ => ()
  | .service =>
    match checkExecutor raw.executor, checkUrl raw.executorUrl with
    | .ok executor, .ok url =>
      if executor = "http" ∧ url.isNone then .error (.settings .urlMissing) else .ok ()
    | _, _ => .ok ()
  | .templates => (checkTemplates home raw.templates).map fun _ => ()
  | .brunPath => (textOr "brun" raw.brunPath).map fun _ => ()
  | .timeout => (checkTimeout raw.timeout).map fun _ => ()
  | .maxWorkers => (checkWorkers raw.maxWorkers).map fun _ => ()
  | .genesisChallenge => (checkChallenge raw.genesisChallenge).map fun _ => ()

/-- **The checks go through one after another.** -/
theorem map_check_eq_forM : (check home raw).map (fun _ => ()) =
    forM Setting.order (verdict home raw) := by
  simp only [Setting.order, List.forM_cons, List.forM_nil, verdict, check]
  -- the check of the service looks at the first two results, so these are known before it
  cases checkExecutor raw.executor with
  | error e => rfl
  | ok executor =>
    cases checkUrl raw.executorUrl with
    | error e => rfl
    | ok url =>
      change (if executor = "http" ∧ url.isNone = true then _ else _ :
        Except LoadError Settings).map _ =
          (if executor = "http" ∧ url.isNone = true then _ else _ : Except LoadError Unit) >>= _
      split
      · rfl
      · change _ = (checkTemplates home raw.templates).map (fun _ => ()) >>= _
        refine map_bind_of_const fun templates => ?_
        refine map_bind_of_const fun brunPath => ?_
        refine map_bind_of_const fun timeout => ?_
        refine map_bind_of_const fun maxWorkers => ?_
        exact map_bind_of_const fun genesisChallenge => rfl

/-- **The failure of the checks is that of the first one that fails.** -/
theorem check_eq_error_iff {e : LoadError} : check home raw = .error e ↔
    ∃ x, (∀ y ∈ x.earlier, verdict home raw y = .ok ()) ∧ verdict home raw x = .error e := by
  rw [← Outcome.map_eq_error_iff (f := fun _ => ()), map_check_eq_forM, forM_eq_error_iff]
  constructor
  · rintro ⟨done, x, rest, horder, hdone, hx⟩
    exact ⟨x, Setting.eq_earlier horder ▸ hdone, hx⟩
  · rintro ⟨x, hdone, hx⟩
    obtain ⟨rest, horder⟩ := x.exists_order_eq
    exact ⟨x.earlier, x, rest, horder, hdone, hx⟩

/-- The given value of a setting is one that its check does not come to terms with: it has to be
written and has too many digits; it has no text that an address is taken from, or one that cannot be
taken apart; it is a path of an unknown user; it is a number out of range. -/
def Breaks (home : Path) (raw : RawSettings) : Setting → Prop
  | .executor => ∃ v, raw.executor = some v ∧ v.isWritable = false
  | .executorUrl =>
    ∃ v, raw.executorUrl = some v ∧ v.truthy = true ∧
      ∀ url, addressText? v = some url → Url.IsMalformed url
  | .service => False
  | .templates => ∃ v, raw.templates = some v ∧ v.truthy = true ∧
    (v.isWritable = false ∨ (Path.ofText v.display).expandHome? home = none)
  | .brunPath => ∃ v, raw.brunPath = some v ∧ v.isWritable = false
  | .timeout => ∃ v, raw.timeout = some v ∧ ((∃ n, v = .int n ∧ Binary64.ofInt? n = none) ∨
    (v.isWritable = false ∧ ∀ n, v ≠ .int n))
  | .maxWorkers => ∃ v, raw.maxWorkers = some v ∧
    ((∃ negative, v = .float (.infinite negative)) ∨
      (v.isWritable = false ∧ ∀ n, v = .int n → n ≤ 0))
  | .genesisChallenge => ∃ v, raw.genesisChallenge = some v ∧ v.isWritable = false

/-- **A check escapes exactly on the values that break it.** -/
theorem escapes_verdict_iff (x : Setting) : Escapes (verdict home raw x) ↔ Breaks home raw x := by
  cases x with
  | executor => exact escapes_map_iff.trans escapes_checkExecutor_iff
  | executorUrl => exact escapes_map_iff.trans escapes_checkUrl_iff
  | service =>
    refine iff_of_false ?_ id
    rw [verdict]
    split
    · split
      · exact not_escapes_settings
      · exact not_escapes_ok
    · exact not_escapes_ok
  | templates => exact escapes_map_iff.trans escapes_checkTemplates_iff
  | brunPath => exact escapes_map_iff.trans escapes_textOr_iff
  | timeout => exact escapes_map_iff.trans escapes_checkTimeout_iff
  | maxWorkers => exact escapes_map_iff.trans escapes_checkWorkers_iff
  | genesisChallenge => exact escapes_map_iff.trans escapes_checkChallenge_iff

/-- **The checks escape if the first setting that is not let through breaks its check.** -/
theorem escapes_check_iff : Escapes (check home raw) ↔
    ∃ x, Breaks home raw x ∧ ∀ y ∈ x.earlier, verdict home raw y = .ok () := by
  simp only [← escapes_verdict_iff, Escapes, check_eq_error_iff]
  constructor
  · rintro ⟨e, ⟨x, hearlier, hx⟩, he⟩
    exact ⟨x, ⟨e, hx, he⟩, hearlier⟩
  · rintro ⟨x, ⟨e, hx, he⟩, hearlier⟩
    exact ⟨e, ⟨x, hearlier, hx⟩, he⟩

end RawSettings

/-! ## The file -/

namespace Settings

variable {read : Yaml.Reader} {files : FileTree} {file : Option String}
  {overrides : List (String × Value)} {environment : List (String × String)}

/-- The path of the file is known, and the file, if there is one, is a text whose only fault may be
that it is no document at all. -/
def IsReadable (read : Yaml.Reader) (files : FileTree) (file : Option String) : Prop :=
  ∃ p, fileFor files.home file = .ok p ∧ (files.exists? p = true → ∃ text,
    files.readText p = .ok text ∧ ∀ cause, read text = .error cause → cause = .malformed)

/-- A path of a file that is given escapes if it names a home that nobody has. -/
theorem escapes_fileFor_iff {home : Path} :
    Escapes (fileFor home file) ↔ ∀ p, fileFor home file ≠ .ok p := by
  cases file with
  | none => exact iff_of_false not_escapes_ok fun h => h _ rfl
  | some text =>
    rw [fileFor]
    split
    · exact iff_of_false not_escapes_ok fun h => h _ rfl
    · exact iff_of_true (escapes_error_iff.2 rfl) fun _ => error_ne_ok

/-- A document that is no map is refused; only a file that cannot be read escapes. -/
theorem escapes_readFile_iff {required : Bool} {p : Path} :
    Escapes (readFile read files required p) ↔
      ¬(files.exists? p = true → ∃ text, files.readText p = .ok text ∧
        ∀ cause, read text = .error cause → cause = .malformed) := by
  rw [readFile]
  split
  · next hexists =>
    simp only [hexists, forall_const]
    cases files.readText p with
    | error cause => exact iff_of_true (escapes_error_iff.2 rfl) (by simp)
    | ok text =>
      simp only [Except.ok.injEq, exists_eq_left']
      cases read text with
      | error cause =>
        cases cause with
        | malformed => exact iff_of_false not_escapes_settings (by simp)
        | _ => exact iff_of_true (escapes_error_iff.2 rfl) (by simp)
      | ok document =>
        refine iff_of_false ?_ (by simp)
        dsimp only
        split
        · exact not_escapes_ok
        · split
          · exact not_escapes_ok
          · exact not_escapes_settings
  · next hmissing =>
    refine iff_of_false ?_ (by simp [hmissing])
    split
    · exact not_escapes_settings
    · exact not_escapes_ok

theorem not_escapes_sectionOf {p : Path} {entries : List (Value × Value)} :
    ¬Escapes (sectionOf p entries) := by
  rw [sectionOf]
  split
  · exact not_escapes_ok
  · exact not_escapes_settings

/-- **When loading fails and not with a refusal**, whatever the reader makes of the file.  The file
cannot be read; or the settings are given and the first one that is not let through is of a value
that breaks its check.  Otherwise the settings are loaded or refused. -/
theorem load_escapes_iff : Escapes (load read files file overrides environment) ↔
    ¬IsReadable read files file ∨ ∃ raw, IsGiven read files file overrides environment raw ∧
      ∃ x, raw.Breaks files.home x ∧ ∀ y ∈ x.earlier, raw.verdict files.home y = .ok () := by
  simp only [load, escapes_bind_iff, escapes_fileFor_iff, escapes_readFile_iff,
    not_escapes_sectionOf, false_or, RawSettings.escapes_check_iff]
  constructor
  · rintro (hpath | ⟨p, hp, hread | ⟨entries, hentries, fileSection, hsection, h⟩⟩)
    · left
      rintro ⟨p, hp, -⟩
      exact hpath p hp
    · left
      rintro ⟨p', hp', hreadable⟩
      obtain rfl := Except.ok.inj (hp.symm.trans hp')
      exact hread hreadable
    · exact .inr ⟨_, ⟨p, entries, fileSection, hp, hentries, hsection, rfl⟩, h⟩
  · rintro (hunreadable | ⟨_, ⟨p, entries, fileSection, hp, hentries, hsection, rfl⟩, h⟩)
    · by_cases hpath : ∃ p, fileFor files.home file = .ok p
      · obtain ⟨p, hp⟩ := hpath
        exact .inr ⟨p, hp, .inl fun hread => hunreadable ⟨p, hp, hread⟩⟩
      · exact .inl (not_exists.1 hpath)
    · exact .inr ⟨p, hp, .inr ⟨entries, hentries, fileSection, hsection, h⟩⟩

/-- An address whose brackets do not fit is not refused as a setting: the failure is that of taking
it apart. -/
theorem load_openBracket :
    load Yaml.read noFiles none [] [("COINLENS_EXECUTOR_URL", "http://[::1")] =
        .error (.url .brackets) ∧
      (LoadError.url .brackets).isRefusal = false := ⟨rfl, rfl⟩

end Settings

end CoinPuzzles
