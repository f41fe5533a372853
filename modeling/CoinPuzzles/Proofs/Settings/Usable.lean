import CoinPuzzles.Proofs.Bytes.HexDigits
import CoinPuzzles.Proofs.Outcome
import CoinPuzzles.Settings.Load

/-!
# Proofs/Settings/Usable — what loaded settings can be used for

Settings are loaded once every check lets its setting through (`RawSettings.check_eq_ok_iff`), so
each check is a source of what the settings can be used for.  The one gap is a timeout that is not a
number: it is not zero or less, and the check asks for no more.  Main statement: what loaded
settings can be used for (`Settings.load_usable`).
-/

namespace CoinPuzzles

open Bytes (hexPairs? hexValue? isHexDigit)
open Outcome (error_ne_ok)

/-! ## Digits in lower case -/

namespace Text

/-- A character that is a digit or an ASCII blank. -/
def standsInHex (c : Char) : Bool := isHexDigit c || isAsciiBlank c

/-- Such a character is below the capitals or among the first six letters, large or small. -/
theorem bounds_of_standsInHex {c : Char} (h : standsInHex c = true) :
    c.toNat < 0x41 ∨ (0x41 ≤ c.toNat ∧ c.toNat ≤ 0x46) ∨ (0x61 ≤ c.toNat ∧ c.toNat ≤ 0x66) := by
  obtain hdigit | hblank := Bool.or_eq_true_iff.1 h
  · have := Bytes.isHexDigit_bounds hdigit
    omega
  · simp only [isAsciiBlank, Bool.or_eq_true, Bool.and_eq_true, decide_eq_true_eq,
      beq_iff_eq] at hblank
    omega

/-- Below the letters with marks only the capitals of ASCII have a lower case. -/
theorem lowerChar_eq_self {c : Char} (h : c.toNat < 0x41 ∨ (0x5a < c.toNat ∧ c.toNat < 0xc0)) :
    lowerChar c = c := by
  have hruns : ∀ r ∈ caseRuns, (r.start = 0x41 ∧ r.stop = 0x5a) ∨ 0xc0 ≤ r.start := by
    decide +kernel
  have hnone : caseRuns.find? (·.covers c.toNat) = none := by
    refine List.find?_eq_none.2 fun r hr => ?_
    have hr := hruns r hr
    simp only [CaseRun.covers, Bool.and_eq_true, decide_eq_true_eq, beq_iff_eq]
    omega
  rw [lowerChar, hnone]

/-- Lowering a digit or a blank changes neither its value nor whether it is blank. -/
theorem lowerChar_of_standsInHex {c : Char} (h : standsInHex c = true) :
    hexValue? (lowerChar c) = hexValue? c ∧ isAsciiBlank (lowerChar c) = isAsciiBlank c := by
  have hcapitals : ∀ n : Fin 6,
      hexValue? (lowerChar (Char.ofNat (0x41 + n))) = hexValue? (Char.ofNat (0x41 + n)) ∧
        isAsciiBlank (lowerChar (Char.ofNat (0x41 + n))) =
          isAsciiBlank (Char.ofNat (0x41 + n)) := by decide +kernel
  obtain hlow | ⟨hfirst, hlast⟩ | hhigh := bounds_of_standsInHex h
  · rw [lowerChar_eq_self (.inl hlow)]
    exact ⟨rfl, rfl⟩
  · have hc := hcapitals ⟨c.toNat - 0x41, by omega⟩
    rwa [Nat.add_sub_of_le hfirst, Char.ofNat_toNat] at hc
  · rw [lowerChar_eq_self (.inr (by omega))]
    exact ⟨rfl, rfl⟩

/-- **Digits are lowered one by one**: none of them is a letter whose lower case hangs on its
neighbours. -/
theorem lowerFrom_eq_map : ∀ {cased : Bool} {s : List Char}, (∀ c ∈ s, standsInHex c = true) →
    lowerFrom cased s = s.map lowerChar
  | _, [], _ => rfl
  | cased, c :: rest, h => by
    obtain ⟨hc, hrest⟩ := List.forall_mem_cons.1 h
    have hbounds := bounds_of_standsInHex hc
    have hdotted : c ≠ '\u0130' := by
      rintro rfl
      exact absurd hbounds (by decide)
    have hsigma : c ≠ '\u03A3' := by
      rintro rfl
      exact absurd hbounds (by decide)
    rw [lowerFrom, if_neg (by simpa using hdotted), if_neg (by simpa using hsigma),
      lowerFrom_eq_map hrest]
    rfl

end Text

/-- The bytes of a text hang on the value of each character and on whether it is blank. -/
theorem Bytes.hexPairs?_map {f : Char → Char} : ∀ {s : List Char},
    (∀ c ∈ s, hexValue? (f c) = hexValue? c ∧ Text.isAsciiBlank (f c) = Text.isAsciiBlank c) →
      hexPairs? (s.map f) = hexPairs? s
  | [], _ => rfl
  | c :: rest, h => by
    obtain ⟨⟨hc, hblank⟩, hrest⟩ := List.forall_mem_cons.1 h
    rw [List.map_cons, hexPairs?.eq_def, hexPairs?.eq_def (c :: rest)]
    dsimp only
    rw [hblank]
    split
    · exact hexPairs?_map hrest
    · cases rest with
      | nil => rfl
      | cons d rest =>
        obtain ⟨⟨hd, -⟩, hrest⟩ := List.forall_mem_cons.1 hrest
        simp only [List.map_cons, hc, hd, hexPairs?_map hrest]

theorem Bytes.standsInHex_of_hexPairs? {s : List Char} {b : Bytes} (h : hexPairs? s = some b) :
    ∀ c ∈ s, Text.standsInHex c = true := fun c hc =>
  Bool.or_eq_true_iff.2 (isHexDigit_or_isAsciiBlank h c hc)

/-- **The digits of a byte string may be lowered.** -/
theorem Bytes.hexPairs?_lower {s : List Char} {b : Bytes} (h : hexPairs? s = some b) :
    hexPairs? (Text.lower s) = some b := by
  have hs := standsInHex_of_hexPairs? h
  rw [Text.lower, Text.lowerFrom_eq_map hs, hexPairs?_map, h]
  exact fun c hc => Text.lowerChar_of_standsInHex (hs c hc)

/-- Digits without capitals are in lower case. -/
theorem Bytes.lower_eq_self {s : List Char} {b : Bytes} (h : hexPairs? s = some b)
    (hcapital : (s.any fun c => decide (0x41 ≤ c.toNat) && decide (c.toNat ≤ 0x5a)) = false) :
    Text.lower s = s := by
  have hs := standsInHex_of_hexPairs? h
  rw [Text.lower, Text.lowerFrom_eq_map hs]
  refine (List.map_congr_left fun c hc => ?_).trans (List.map_id' _)
  have hbounds := Text.bounds_of_standsInHex (hs c hc)
  have hc := List.any_eq_false.1 hcapital c hc
  simp only [Bool.and_eq_true, decide_eq_true_eq] at hc
  exact Text.lowerChar_eq_self (by omega)

/-! ## Addresses -/

namespace Url

/-- The scheme of an address. -/
def schemeOf (url : String) : List Char := (splitScheme (clean url.toList)).1

/-- The authority of an address. -/
def placeOf (url : String) : List Char := authority (splitScheme (clean url.toList)).2

/-- The scheme is one of the web, and there is a host. -/
structure IsWeb (url : String) : Prop where
  scheme : schemeOf url = "http".toList ∨ schemeOf url = "https".toList
  host_ne_nil : hostOf (placeOf url) ≠ []

/-- The check of an address looks at its scheme and its authority. -/
theorem isService_eq (url : String) : isService url = do
    checkBrackets (placeOf url)
    if (placeOf url).any fun c => lookalikes.contains c.toNat then
      .error (.lookalike (String.ofList (placeOf url)))
    else
      return (schemeOf url == "http".toList || schemeOf url == "https".toList) &&
        !(hostOf (placeOf url)).isEmpty := rfl

theorem isWeb_of_isService {url : String} (h : isService url = .ok true) : IsWeb url := by
  rw [isService_eq] at h
  obtain ⟨-, -, h⟩ := Outcome.bind_eq_ok_iff.1 h
  split at h
  · exact absurd h error_ne_ok
  · have h := Except.ok.inj h
    simp only [Bool.and_eq_true, Bool.or_eq_true, beq_iff_eq, Bool.not_eq_true',
      List.isEmpty_eq_false_iff] at h
    exact ⟨h.1, h.2⟩

end Url

/-! ## Positive numbers -/

/-- Whether a number compares as more than zero. -/
def Binary64.isPositive : Binary64 → Bool
  | finite negative m _ => !negative && m != 0
  | infinite negative => !negative
  | nan => false

/-- **What is not zero or less is more than zero, or no number.** -/
theorem Binary64.isPositive_or_nan {x : Binary64} (h : x.isNonpositive = false) :
    x.isPositive = true ∨ x = .nan := by
  cases x with
  | finite negative m e =>
    left
    simpa [isNonpositive, isPositive, bne_iff_ne] using h
  | infinite negative =>
    left
    simpa [isNonpositive, isPositive] using h
  | nan => exact .inr rfl

/-- A quotient is rounded to a finite number, unless its exponent is too large. -/
theorem Binary64.exists_ofQuotient_eq {num : Nat} (h : num ≠ 0) (negative : Bool) (den : Nat) :
    ∃ (m : Nat) (e : Int), (num.log2 : Int) - den.log2 - 53 ≤ e ∧
      ofQuotient negative num den = if 971 < e then infinite negative else finite negative m e := by
  obtain ⟨top, htop, hle⟩ : ∃ top : Int, (if reaches num den (num.log2 - den.log2) then
      (num.log2 : Int) - den.log2 else num.log2 - den.log2 - 1) = top ∧
        (num.log2 : Int) - den.log2 - 1 ≤ top := by
    refine ⟨_, rfl, ?_⟩
    split <;> omega
  rw [ofQuotient, if_neg h]
  dsimp only
  rw [htop]
  have hexponent : (num.log2 : Int) - den.log2 - 53 ≤ max (top - 52) (-1074) := by omega
  by_cases hcarry : divideScaled num den (max (top - 52) (-1074)) = Nat.pow 2 53
  · rw [if_pos hcarry]
    exact ⟨Nat.pow 2 52, max (top - 52) (-1074) + 1, by omega, rfl⟩
  · rw [if_neg hcarry]
    exact ⟨_, _, hexponent, rfl⟩

theorem Binary64.ofQuotient_ne_nan (negative : Bool) (num den : Nat) :
    ofQuotient negative num den ≠ .nan := by
  by_cases hzero : num = 0
  · rw [ofQuotient, if_pos hzero]
    nofun
  · obtain ⟨m, e, -, h⟩ := exists_ofQuotient_eq hzero negative den
    rw [h]
    split <;> nofun

/-- No integer is read as the number that is none. -/
theorem Binary64.ofInt?_ne_nan {n : Int} : ofInt? n ≠ some .nan := by
  intro h
  rw [ofInt?] at h
  split at h
  · cases h
  · exact ofQuotient_ne_nan _ _ _ (Option.some.inj h)

/-! ## What each check lets through -/

namespace RawSettings

variable {v : Value} {given : Option Value}

theorem refuse_ne_ok {α : Type} {cause : String → SettingsError} {a : α} :
    refuse v cause ≠ .ok a := by
  intro h
  obtain ⟨_, -, h⟩ := Outcome.bind_eq_ok_iff.1 h
  exact error_ne_ok h

/-- **Of the executors only two are let through.** -/
theorem checkExecutor_mem {name : String} (h : checkExecutor given = .ok name) :
    name = "brun" ∨ name = "http" := by
  obtain ⟨text, -, h⟩ := Outcome.bind_eq_ok_iff.1 h
  dsimp only at h
  split at h
  · next hmem =>
    obtain rfl := Except.ok.inj h
    simpa [executorKinds] using hmem
  · exact absurd h error_ne_ok

/-- **An address that is let through is not empty and one of the web.** -/
theorem isWeb_of_checkUrl {url : String} (h : checkUrl given = .ok (some url)) :
    url ≠ "" ∧ Url.IsWeb url := by
  cases given with
  | none => exact absurd (Except.ok.inj h) (by simp)
  | some v =>
    rw [checkUrl.eq_def] at h
    dsimp only at h
    split at h
    · exact absurd (Except.ok.inj h) (by simp)
    · next htruthy =>
      split at h
      · next url' =>
        split at h
        · next hservice =>
          obtain rfl := Option.some.inj (Except.ok.inj h)
          exact ⟨by simpa [Value.truthy] using htruthy, Url.isWeb_of_isService hservice⟩
        · exact absurd h error_ne_ok
        · exact absurd h error_ne_ok
      · split at h
        · exact absurd h error_ne_ok
        · exact absurd h error_ne_ok
        · exact absurd h error_ne_ok
      · exact absurd h error_ne_ok

/-- The value reads as the number that is none. -/
inductive ReadsAsNan : Value → Prop
  | float : ReadsAsNan (.float .nan)
  | text {s : String} (h : Binary64.ofText? s = some .nan) : ReadsAsNan (.text s)
  | ascii {b : Bytes} (h : b.toAscii?.bind Binary64.ofText? = some .nan) : ReadsAsNan (.bytes b)

theorem toReal_int_ne_nan {name : String} {n : Int} : toReal name (.int n) ≠ .ok .nan := by
  intro h
  rw [toReal.eq_def] at h
  dsimp only at h
  split at h
  · next x hx => exact Binary64.ofInt?_ne_nan (hx.trans (congrArg some (Except.ok.inj h)))
  · exact error_ne_ok h

/-- A truth value is taken for a number. -/
theorem toReal_bool (name : String) (b : Bool) :
    toReal name (.bool b) = toReal name (.int (if b then 1 else 0)) := rfl

/-- **A value is read as no number exactly if it is none or spells none.** -/
theorem toReal_eq_nan_iff {name : String} : toReal name v = .ok .nan ↔ ReadsAsNan v := by
  cases v with
  | text s =>
    rw [toReal.eq_def]
    dsimp only
    split
    · next x hx =>
      constructor
      · intro h
        obtain rfl := Except.ok.inj h
        exact .text hx
      · rintro ⟨⟩
        next hnan => rw [Option.some.inj (hx.symm.trans hnan)]
    · next hnone =>
      refine iff_of_false refuse_ne_ok ?_
      rintro ⟨⟩
      next hnan => exact absurd (hnone.symm.trans hnan) (by simp)
  | bytes b =>
    rw [toReal.eq_def]
    dsimp only
    split
    · next x hx =>
      constructor
      · intro h
        obtain rfl := Except.ok.inj h
        exact .ascii hx
      · rintro ⟨⟩
        next hnan => rw [Option.some.inj (hx.symm.trans hnan)]
    · next hnone =>
      refine iff_of_false refuse_ne_ok ?_
      rintro ⟨⟩
      next hnan => exact absurd (hnone.symm.trans hnan) (by simp)
  | bool b =>
    rw [toReal_bool]
    exact iff_of_false toReal_int_ne_nan nofun
  | int n => exact iff_of_false toReal_int_ne_nan nofun
  | float x =>
    constructor
    · intro h
      obtain rfl := Except.ok.inj h
      exact .float
    · rintro ⟨⟩
      rfl
  | _ => exact iff_of_false refuse_ne_ok nofun

/-- **A timeout is a positive number, or is given as none.** -/
theorem checkTimeout_eq_ok {t : Seconds} (h : checkTimeout given = .ok t) :
    ∃ x, t = .real x ∧ (x.isPositive = true ∨ x = .nan) ∧
      (x = .nan ↔ ∃ v, given = some v ∧ ReadsAsNan v) := by
  cases given with
  | none =>
    obtain rfl := Except.ok.inj h
    exact ⟨_, rfl, .inl (by decide +kernel), iff_of_false (by decide +kernel) (by simp)⟩
  | some v =>
    obtain ⟨x, hx, h⟩ := Outcome.bind_eq_ok_iff.1 h
    split at h
    · exact absurd h refuse_ne_ok
    · next hpositive =>
      obtain rfl := Except.ok.inj h
      refine ⟨x, rfl, Binary64.isPositive_or_nan (by simpa using hpositive), ?_⟩
      constructor
      · rintro rfl
        exact ⟨v, rfl, toReal_eq_nan_iff.1 hx⟩
      · rintro ⟨_, hv, hnan⟩
        obtain rfl := Option.some.inj hv
        exact Except.ok.inj (hx.symm.trans (toReal_eq_nan_iff.2 hnan))

/-- **At least one worker is let through.** -/
theorem one_le_of_checkWorkers {n : Int} (h : checkWorkers given = .ok n) : 1 ≤ n := by
  cases given with
  | none =>
    obtain rfl := Except.ok.inj h
    decide
  | some v =>
    obtain ⟨m, -, h⟩ := Outcome.bind_eq_ok_iff.1 h
    split at h
    · exact absurd h refuse_ne_ok
    · obtain rfl := Except.ok.inj h
      omega

/-- The digits of a challenge, its mark dropped. -/
def digitsOf (text : String) : List Char :=
  match text.toList with
  | '0' :: 'x' :: rest => rest
  | s => s

/-- **A challenge of 32 bytes is lowered.** -/
theorem checkChallenge_eq_ok_iff {challenge : String} : checkChallenge given = .ok challenge ↔
    ∃ text b, textOr Settings.mainnetChallenge given = .ok text ∧
      hexPairs? (digitsOf text) = some b ∧ b.length = 32 ∧
      challenge = String.ofList (Text.lower (digitsOf text)) := by
  rw [checkChallenge, Outcome.bind_eq_ok_iff]
  constructor
  · rintro ⟨text, htext, h⟩
    dsimp only at h
    split at h
    · exact absurd h error_ne_ok
    · next b hb =>
      split at h
      · next hsize =>
        exact ⟨text, b, htext, hb, hsize, (Except.ok.inj h).symm⟩
      · exact absurd h error_ne_ok
  · rintro ⟨text, b, htext, hb, hsize, rfl⟩
    refine ⟨text, htext, ?_⟩
    dsimp only
    split
    · next hnone => exact absurd (hnone.symm.trans hb) (by simp)
    · next b' hb' =>
      obtain rfl := Option.some.inj (hb'.symm.trans hb)
      rw [if_pos hsize]
      rfl

/-- **A challenge keeps its bytes.** -/
theorem hexPairs?_of_checkChallenge {challenge : String}
    (h : checkChallenge given = .ok challenge) :
    ∃ text b, textOr Settings.mainnetChallenge given = .ok text ∧
      hexPairs? (digitsOf text) = some b ∧ b.length = 32 ∧
      hexPairs? challenge.toList = some b := by
  obtain ⟨text, b, htext, hb, hsize, rfl⟩ := checkChallenge_eq_ok_iff.1 h
  exact ⟨text, b, htext, hb, hsize, by rw [String.toList_ofList, Bytes.hexPairs?_lower hb]⟩

/-- The challenge that is used if none is given passes the check. -/
theorem checkChallenge_none : checkChallenge none = .ok Settings.mainnetChallenge := by
  have hsize : (hexPairs? (digitsOf Settings.mainnetChallenge)).map List.length = some 32 := by
    decide +kernel
  obtain ⟨b, hb, hlength⟩ := Option.map_eq_some_iff.1 hsize
  refine checkChallenge_eq_ok_iff.2 ⟨_, b, rfl, hb, hlength, ?_⟩
  rw [Bytes.lower_eq_self hb (by decide +kernel)]
  decide +kernel

/-- **The settings are loaded once every check lets its own through.** -/
theorem check_eq_ok_iff {home : Path} {raw : RawSettings} {s : Settings} :
    check home raw = .ok s ↔
      checkExecutor raw.executor = .ok s.executor ∧ checkUrl raw.executorUrl = .ok s.executorUrl ∧
      ¬(s.executor = "http" ∧ s.executorUrl.isNone = true) ∧
      checkTemplates home raw.templates = .ok s.templates ∧
      textOr "brun" raw.brunPath = .ok s.brunPath ∧ checkTimeout raw.timeout = .ok s.timeout ∧
      checkWorkers raw.maxWorkers = .ok s.maxWorkers ∧
      checkChallenge raw.genesisChallenge = .ok s.genesisChallenge := by
  rw [check]
  simp only [Outcome.bind_eq_ok_iff, Outcome.guard_eq_ok_iff, Outcome.pure_eq_ok_iff]
  constructor
  · rintro ⟨_, hexecutor, _, hurl, hservice, _, htemplates, _, hbrun, _, htimeout, _, hworkers, _,
      hchallenge, rfl⟩
    exact ⟨hexecutor, hurl, hservice, htemplates, hbrun, htimeout, hworkers, hchallenge⟩
  · rintro ⟨hexecutor, hurl, hservice, htemplates, hbrun, htimeout, hworkers, hchallenge⟩
    exact ⟨_, hexecutor, _, hurl, hservice, _, htemplates, _, hbrun, _, htimeout, _, hworkers, _,
      hchallenge, rfl⟩

end RawSettings

/-! ## Loaded settings -/

namespace Settings

/-- The settings that the sources give, once the file that is named is read. -/
def IsGiven (read : Yaml.Reader) (files : FileTree) (file : Option String)
    (overrides : List (String × Value)) (environment : List (String × String))
    (raw : RawSettings) : Prop :=
  ∃ p entries fileSection, fileFor files.home file = .ok p ∧
    readFile read files file.isSome p = .ok entries ∧ sectionOf p entries = .ok fileSection ∧
    raw = Sources.raw ⟨overrides, environment, fileSection⟩

/-- What settings can be used for, and what they keep of those that were given. -/
structure Usable (s : Settings) (raw : RawSettings) : Prop where
  exists_backend : ∃ b, s.backend = .ok b
  executor_mem : s.executor = "brun" ∨ s.executor = "http"
  url_of_http : s.executor = "http" → ∃ url, s.executorUrl = some url ∧ url ≠ "" ∧ Url.IsWeb url
  one_le_maxWorkers : 1 ≤ s.maxWorkers
  timeout_eq : ∃ x, s.timeout = .real x ∧ (x.isPositive = true ∨ x = .nan) ∧
    (x = .nan ↔ ∃ v, raw.timeout = some v ∧ RawSettings.ReadsAsNan v)
  challenge_eq : ∃ text b,
    RawSettings.textOr mainnetChallenge raw.genesisChallenge = .ok text ∧
      hexPairs? (RawSettings.digitsOf text) = some b ∧ b.length = 32 ∧
      hexPairs? s.genesisChallenge.toList = some b ∧ s.genesisBytes = b

variable {read : Yaml.Reader} {files : FileTree} {file : Option String}
  {overrides : List (String × Value)} {environment : List (String × String)} {s : Settings}

/-- **Settings are loaded once a section is found and what the sources give passes the checks.** -/
theorem load_eq_ok_iff : load read files file overrides environment = .ok s ↔
    ∃ raw, IsGiven read files file overrides environment raw ∧
      RawSettings.check files.home raw = .ok s := by
  rw [load]
  simp only [Outcome.bind_eq_ok_iff]
  constructor
  · rintro ⟨p, hp, entries, hentries, fileSection, hsection, h⟩
    exact ⟨_, ⟨p, entries, fileSection, hp, hentries, hsection, rfl⟩, h⟩
  · rintro ⟨_, ⟨p, entries, fileSection, hp, hentries, hsection, rfl⟩, h⟩
    exact ⟨p, hp, entries, hentries, fileSection, hsection, h⟩

/-- A backend is there unless a service has no address. -/
theorem exists_backend_of_url
    (h : s.executor = "http" → ∃ url, s.executorUrl = some url ∧ url ≠ "" ∧ Url.IsWeb url) :
    ∃ b, s.backend = .ok b := by
  rw [backend]
  split
  · next hhttp =>
    obtain ⟨url, hurl, hne, -⟩ := h hhttp
    rw [hurl]
    dsimp only
    rw [if_neg hne]
    exact ⟨_, rfl⟩
  · exact ⟨_, rfl⟩

/-- **Settings that pass every check can be used**, each check giving one part. -/
theorem usable_of_check {home : Path} {raw : RawSettings} (h : raw.check home = .ok s) :
    s.Usable raw := by
  obtain ⟨hexecutor, hurl, hservice, -, -, htimeout, hworkers, hchallenge⟩ :=
    RawSettings.check_eq_ok_iff.1 h
  have hweb (hhttp : s.executor = "http") :
      ∃ url, s.executorUrl = some url ∧ url ≠ "" ∧ Url.IsWeb url := by
    cases hgiven : s.executorUrl with
    | none => exact absurd ⟨hhttp, by rw [hgiven]; rfl⟩ hservice
    | some url => exact ⟨url, rfl, RawSettings.isWeb_of_checkUrl (hgiven ▸ hurl)⟩
  obtain ⟨text, b, htext, hdigits, hsize, hb⟩ := RawSettings.hexPairs?_of_checkChallenge hchallenge
  exact {
    exists_backend := exists_backend_of_url hweb
    executor_mem := RawSettings.checkExecutor_mem hexecutor
    url_of_http := hweb
    one_le_maxWorkers := RawSettings.one_le_of_checkWorkers hworkers
    timeout_eq := RawSettings.checkTimeout_eq_ok htimeout
    challenge_eq := ⟨text, b, htext, hdigits, hsize, hb, by rw [genesisBytes, hb]; rfl⟩ }

/-- **What loaded settings can be used for.**  There is a backend of one of the two kinds, with an
address of the web if it is a service; at least one worker; the 32 bytes of the challenge that was
given; and a timeout that is a positive number, unless one is given that reads as no number.  All
this holds whatever the reader of the file makes of it. -/
theorem load_usable (h : load read files file overrides environment = .ok s) :
    ∃ raw, IsGiven read files file overrides environment raw ∧ s.Usable raw := by
  obtain ⟨raw, hgiven, hcheck⟩ := load_eq_ok_iff.1 h
  exact ⟨raw, hgiven, usable_of_check hcheck⟩

/-! ## Settings without a file -/

/-- No file is there. -/
def noFiles : FileTree := ⟨.ofText "home", []⟩

theorem isGiven_noFiles (environment : List (String × String)) :
    IsGiven Yaml.read noFiles none [] environment (Sources.raw ⟨[], environment, []⟩) :=
  ⟨defaultFile, [], [], rfl, rfl, rfl, rfl⟩

/-- An environment that asks for a service. -/
def serviceEnvironment : List (String × String) := [
  ("COINLENS_EXECUTOR", "HTTP"), ("COINLENS_EXECUTOR_URL", "http://h/run"),
  ("COINLENS_TIMEOUT", "2.5"), ("COINLENS_MAX_WORKERS", " +1_0 ")]

/-- The settings of that environment can be used. -/
theorem load_usable_service : ∃ s, load Yaml.read noFiles none [] serviceEnvironment = .ok s ∧
    ∃ raw, IsGiven Yaml.read noFiles none [] serviceEnvironment raw ∧ s.Usable raw := by
  have hload : load Yaml.read noFiles none [] serviceEnvironment = .ok {
      templates := none, executor := "http", brunPath := "brun"
      executorUrl := some "http://h/run", timeout := .real (.ofDecimal false 25 (-1))
      maxWorkers := 10, genesisChallenge := mainnetChallenge } :=
    load_eq_ok_iff.2 ⟨_, isGiven_noFiles _, RawSettings.check_eq_ok_iff.2
      ⟨rfl, rfl, by decide, rfl, rfl, rfl, rfl, RawSettings.checkChallenge_none⟩⟩
  exact ⟨_, hload, load_usable hload⟩

/-- Not every timeout of loaded settings is a positive number: the text of the number that is none
is let through. -/
theorem not_isPositive_timeout : ¬∀ (files : FileTree) (file : Option String)
    (overrides : List (String × Value)) (environment : List (String × String)) (s : Settings),
    load Yaml.read files file overrides environment = .ok s →
      ∃ x, s.timeout = .real x ∧ x.isPositive = true := by
  intro h
  have hload : load Yaml.read noFiles none [] [("COINLENS_TIMEOUT", "nan")] = .ok {
      templates := none, executor := "brun", brunPath := "brun", executorUrl := none
      timeout := .real .nan, maxWorkers := 8, genesisChallenge := mainnetChallenge } :=
    load_eq_ok_iff.2 ⟨_, isGiven_noFiles _, RawSettings.check_eq_ok_iff.2
      ⟨rfl, rfl, by decide, rfl, rfl, rfl, rfl, RawSettings.checkChallenge_none⟩⟩
  obtain ⟨x, hx, hpositive⟩ := h _ _ _ _ _ hload
  obtain rfl := Seconds.real.inj hx
  exact absurd hpositive (by decide)

end Settings

end CoinPuzzles
