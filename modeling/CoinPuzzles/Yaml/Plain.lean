import CoinPuzzles.Value.Basic

/-!
# Yaml/Plain — what a plain scalar stands for

A scalar without quotes is null, a truth value, a number, a date, a point in time or, if it has
none of these forms, a text.  Integers may be binary, octal after a leading zero, hexadecimal, or in
sixties; low lines between digits do not count.
-/

namespace CoinPuzzles.Yaml

/-- Why a text is no document.  Only the first cause is a fault of the text as such; with the others
a value cannot be built, or the reader breaks off. -/
inductive YamlError where
  /-- The text does not follow the grammar. -/
  | malformed
  /-- A decimal integer has too many digits. -/
  | numeral (cause : NumeralError)
  /-- A number in some base has no digits. -/
  | noDigits (base : Nat)
  /-- A date has no such month. -/
  | badMonth
  /-- A month has no such day. -/
  | badDay
  /-- There is no year zero. -/
  | badYear
  /-- A part of the time of day is past its greatest value. -/
  | badClock (part : String) (greatest : Nat)
  /-- A clock is a day or more apart from universal time. -/
  | badOffset (minutes : Int)
  /-- The reader breaks off for a reason of its own, such as a nesting that is too deep. -/
  | brokenOff (reason : String)
deriving DecidableEq

/-- The wording of a refusal that is not about the grammar. -/
def YamlError.message : YamlError → String
  | .malformed => "malformed document"
  | .numeral cause => cause.message
  | .noDigits base => "invalid literal for int() with base " ++ toString base ++ ": ''"
  | .badMonth => "month must be in 1..12"
  | .badDay => "day is out of range for month"
  | .badYear => "year 0 is out of range"
  | .badClock part greatest => part ++ " must be in 0.." ++ toString greatest
  | .badOffset minutes =>
    "offset must be a timedelta strictly between -timedelta(hours=24) and timedelta(hours=24), " ++
      "not " ++ Calendar.spanText minutes ++ "."
  | .brokenOff reason => reason

/-- A digit or a low line. -/
def isDigitOrLine (c : Char) : Bool := c.isDigit || c == '_'

/-- The digits of a text that may have low lines among them. -/
def dropLines (s : List Char) : List Char := s.filter (· != '_')

/-- The number that digits spell in a base of up to sixteen. -/
def inBase (base : Nat) (s : List Char) : Nat :=
  Numeral.ofDigits base (s.map fun c => (Bytes.hexValue? c).getD 0)

/-- A part after a colon: one digit, or two up to 59. -/
def isSixtieth : List Char → Bool
  | [d] => d.isDigit
  | [d, e] => decide (48 ≤ d.toNat) && decide (d.toNat ≤ 53) && e.isDigit
  | _ => false

/-- The number of parts in sixties. -/
def inSixties (parts : List (List Char)) : Nat :=
  Numeral.ofDigits 60 (parts.map fun part => inBase 10 (dropLines part))

/-- A natural number in one of the integer forms. -/
def natural? (s : List Char) : Option (Except YamlError Nat) :=
  let based (base : Nat) (digits : List Char) : Except YamlError Nat :=
    let digits := dropLines digits
    if digits.isEmpty then .error (.noDigits base) else .ok (inBase base digits)
  match s with
  | '0' :: 'b' :: rest =>
    if !rest.isEmpty && rest.all fun c => c == '0' || c == '1' || c == '_' then some (based 2 rest)
    else none
  | '0' :: 'x' :: rest =>
    if !rest.isEmpty && rest.all fun c => Bytes.isHexDigit c || c == '_' then
      some (based 16 rest)
    else none
  | '0' :: rest =>
    if rest.all fun c => (decide (48 ≤ c.toNat) && decide (c.toNat ≤ 55)) || c == '_' then
      some (.ok (inBase 8 (dropLines rest)))
    else none
  | first :: _ =>
    if !first.isDigit then none
    else
      match s.splitOn ':' with
      | [digits] =>
        if digits.all isDigitOrLine then
          let digits := dropLines digits
          if Numeral.digitLimit < digits.length then
            some (.error (.numeral (.tooLongToRead digits.length)))
          else some (.ok (inBase 10 digits))
        else none
      | digits :: parts =>
        if digits.all isDigitOrLine && parts.all isSixtieth then
          some (.ok (inSixties (digits :: parts)))
        else none
      | [] => none
  | [] => none

/-- An exponent with its sign, or nothing. -/
def exponent? : List Char → Option Int
  | [] => some 0
  | e :: sign :: digits =>
    if (e == 'e' || e == 'E') && !digits.isEmpty && digits.all Char.isDigit then
      if sign == '+' then some (inBase 10 digits)
      else if sign == '-' then some (-(inBase 10 digits : Int))
      else none
    else none
  | [_] => none

/-- A number with a point, a fraction and an exponent, after its whole part. -/
def pointed? (negative : Bool) (whole rest : List Char) : Option Binary64 :=
  match rest with
  | '.' :: rest =>
    let fraction := dropLines (rest.takeWhile isDigitOrLine)
    (exponent? (rest.dropWhile isDigitOrLine)).map fun e =>
      Binary64.ofDecimal negative (inBase 10 (dropLines whole ++ fraction)) (e - fraction.length)
  | _ => none

/-- A number in sixties with a point after its last part. -/
def pointedSixties? (negative : Bool) (s : List Char) : Option Binary64 :=
  let before := s.takeWhile (· != '.')
  match s.dropWhile (· != '.') with
  | '.' :: rest =>
    match before.splitOn ':' with
    | digits :: part :: parts =>
      if digits.head?.any Char.isDigit && digits.all isDigitOrLine &&
          (part :: parts).all isSixtieth && rest.all isDigitOrLine then
        let fraction := dropLines rest
        some (Binary64.ofDecimal negative
          (inSixties (digits :: part :: parts) * Nat.pow 10 fraction.length + inBase 10 fraction)
          (-(fraction.length : Int)))
      else none
    | _ => none
  | _ => none

/-- A floating-point number. -/
def real? (s : List Char) : Option Binary64 :=
  let (negative, unsigned) := Numeral.takeSign s
  let word := String.ofList unsigned
  if word ∈ [".inf", ".Inf", ".INF"] then some (.infinite negative)
  else if String.ofList s ∈ [".nan", ".NaN", ".NAN"] then some .nan
  else
    let whole := unsigned.takeWhile isDigitOrLine
    let rest := unsigned.dropWhile isDigitOrLine
    if whole.head?.any Char.isDigit then
      (pointed? negative whole rest).orElse fun _ => pointedSixties? negative unsigned
    else
      match s with
      | '.' :: d :: _ => if d.isDigit then pointed? false [] s else none
      | _ => none

/-- The fault of a date, if it has one. -/
def dateFault? (year month day : Nat) : Option YamlError :=
  if year = 0 then some .badYear
  else if month = 0 ∨ 12 < month then some .badMonth
  else if day = 0 ∨ Calendar.daysIn year month < day then some .badDay
  else none

/-- A date, four digits, two and two between hyphens. -/
def date? (s : List Char) : Option (Except YamlError Value) :=
  match s with
  | [a, b, c, d, '-', e, f, '-', g, h] =>
    if [a, b, c, d, e, f, g, h].all Char.isDigit then
      let year := inBase 10 [a, b, c, d]
      let month := inBase 10 [e, f]
      let day := inBase 10 [g, h]
      match dateFault? year month day with
      | some cause => some (.error cause)
      | none => some (.ok (.date year month day))
    else none
  | _ => none

/-- A space or a tab. -/
def isSpaceOrTab (c : Char) : Bool := c == ' ' || c == '\t'

/-- A number of one or two digits in front of a text, or of a given width, and what follows it. -/
def takeNumber? (least most : Nat) (s : List Char) : Option (Nat × List Char) :=
  let digits := s.takeWhile Char.isDigit
  if least ≤ digits.length ∧ digits.length ≤ most then
    some (inBase 10 digits, s.drop digits.length)
  else none

/-- What follows a character in front of a text. -/
def after? (c : Char) : List Char → Option (List Char)
  | d :: rest => if d == c then some rest else none
  | [] => none

/-- The minutes by which a clock is ahead, at the end of a point in time: nothing, the letter of
universal time, or a sign with hours and perhaps minutes. -/
def offset? (s : List Char) : Option (Option Int) :=
  match s, s.dropWhile isSpaceOrTab with
  | [], _ => some none
  | _, ['Z'] => some (some 0)
  | _, sign :: rest => do
    if sign != '+' && sign != '-' then none
    let (hours, rest) ← takeNumber? 1 2 rest
    let (minutes, rest) ←
      if rest.isEmpty then some (0, []) else (after? ':' rest).bind (takeNumber? 2 2)
    if !rest.isEmpty then none
    let n : Int := (60 * hours + minutes : Nat)
    return some (if sign == '-' then -n else n)
  | _, [] => none

/-- The microseconds that the digits of a fraction come to. -/
def microseconds (fraction : List Char) : Nat :=
  inBase 10 ((fraction ++ List.replicate 6 '0').take 6)

/-- A point in time: a date whose month and day may have one digit, a letter or blanks, the time of
day, a fraction of a second or none, and how far the clock is ahead or nothing. -/
def moment? (s : List Char) : Option (Except YamlError Value) := do
  let (year, rest) ← takeNumber? 4 4 s
  let (month, rest) ← (after? '-' rest).bind (takeNumber? 1 2)
  let (day, rest) ← (after? '-' rest).bind (takeNumber? 1 2)
  let rest ← match rest with
    | c :: rest =>
      if c == 'T' || c == 't' then some rest
      else if isSpaceOrTab c then some (rest.dropWhile isSpaceOrTab)
      else none
    | [] => none
  let (hour, rest) ← takeNumber? 1 2 rest
  let (minute, rest) ← (after? ':' rest).bind (takeNumber? 2 2)
  let (second, rest) ← (after? ':' rest).bind (takeNumber? 2 2)
  let fraction := match rest with
    | '.' :: rest => rest.takeWhile Char.isDigit
    | _ => []
  let rest := match rest with
    | '.' :: rest => rest.dropWhile Char.isDigit
    | rest => rest
  let offset ← offset? rest
  -- how far the clock is ahead is looked at first, then the parts from the year on
  return if offset.any fun n => decide (1440 ≤ n.natAbs) then .error (.badOffset (offset.getD 0))
    else match dateFault? year month day with
      | some cause => .error cause
      | none =>
        if 23 < hour then .error (.badClock "hour" 23)
        else if 59 < minute then .error (.badClock "minute" 59)
        else if 59 < second then .error (.badClock "second" 59)
        else .ok (.moment ⟨year, month, day, hour, minute, second, microseconds fraction, offset⟩)

/-- The value of a scalar without quotes. -/
def resolve (s : List Char) : Except YamlError Value :=
  let word := String.ofList s
  if word ∈ ["", "~", "null", "Null", "NULL"] then .ok .null
  else if word ∈ ["yes", "Yes", "YES", "true", "True", "TRUE", "on", "On", "ON"] then
    .ok (.bool true)
  else if word ∈ ["no", "No", "NO", "false", "False", "FALSE", "off", "Off", "OFF"] then
    .ok (.bool false)
  else if word = "=" ∨ word = "<<" then .error .malformed
  else
    match real? s with
    | some x => .ok (.float x)
    | none =>
      let (negative, unsigned) := Numeral.takeSign s
      match natural? unsigned with
      | some n => n.map fun n => .int (if negative then -(n : Int) else n)
      | none =>
        match (date? s).orElse fun _ => moment? s with
        | some v => v
        | none => .ok (.text word)

example : resolve "0x1F".toList = .ok (.int 31) := rfl

example : resolve "-1:30".toList = .ok (.int (-90)) := rfl

example : resolve "1e3".toList = .ok (.text "1e3") := rfl

example : resolve "2001-01-01".toList = .ok (.date 2001 1 1) := rfl

example : resolve "2001-02-29".toList = .error .badDay := rfl

example : resolve "2001-12-14t21:59:43.1 -5:30".toList =
    .ok (.moment ⟨2001, 12, 14, 21, 59, 43, 100000, some (-330)⟩) := rfl

example : resolve "2001-12-14 21:59:60".toList = .error (.badClock "second" 59) := rfl

end CoinPuzzles.Yaml
