import CoinPuzzles.Number.Binary64
import CoinPuzzles.Number.Numeral

/-!
# Number/DecimalText — floating-point numbers as text

A number is written with the fewest decimal digits that read back as it, of those the nearest; the
point is placed by position from 10^-4 below 10^16 and by an exponent elsewhere.  Reading accepts a
sign, digits with a point and an exponent, and the words for infinity and for no number.
-/

namespace CoinPuzzles.Binary64

/-- The points `q`, `q + 1` of the decimal grid `10 ^ x` around `m · 2 ^ e`, and whether the upper
one is nearer (at a tie, whether it is even). -/
def neighbours (m : Nat) (e x : Int) : Nat × Bool :=
  let num := m * Nat.pow 2 e.toNat * Nat.pow 10 (-x).toNat
  let den := Nat.pow 2 (-e).toNat * Nat.pow 10 x.toNat
  let q := num / den
  (q, divideToEven num den != q)

/-- The coarsest decimal grid, from `10 ^ x` downwards, that has a point which reads back. -/
def shortestFrom (m : Nat) (e : Int) : Nat → Int → Nat × Int
  | 0, x => (0, x)
  | fuel + 1, x =>
    let value := finite false m e
    let (q, upperNearer) := neighbours m e x
    let lowerHits := ofDecimal false q x == value
    let upperHits := ofDecimal false (q + 1) x == value
    if lowerHits && !(upperHits && upperNearer) then (q, x)
    else if upperHits then (q + 1, x)
    else shortestFrom m e fuel (x - 1)

/-- The digits and the exponent of ten with the fewest digits that read back. -/
def shortest (m : Nat) (e : Int) : Nat × Int :=
  shortestFrom m e 25 (((m.log2 + 1 : Nat) + e) * 30103 / 100000 + 1)

/-- The exponent of a number written as one digit before the point. -/
def exponentText (n : Int) : String :=
  let digits := toString n.natAbs
  (if n < 0 then "-" else "+") ++ (if digits.length < 2 then "0" ++ digits else digits)

/-- Digits with the point after the first `point` of them. -/
def placePoint (digits : List Char) (point : Int) : String :=
  let zeros (n : Int) : List Char := List.replicate n.toNat '0'
  if -4 < point ∧ point ≤ 16 then
    if point ≤ 0 then String.ofList ('0' :: '.' :: (zeros (-point) ++ digits))
    else
      let whole := digits.take point.toNat ++ zeros (point - digits.length)
      let rest := digits.drop point.toNat
      String.ofList (whole ++ '.' :: (if rest.isEmpty then ['0'] else rest))
  else
    let rest := digits.drop 1
    String.ofList (digits.take 1 ++ (if rest.isEmpty then [] else '.' :: rest)) ++ "e" ++
      exponentText (point - 1)

/-- The text of a number. -/
def toText : Binary64 → String
  | nan => "nan"
  | infinite negative => if negative then "-inf" else "inf"
  | finite negative m e =>
    let sign := if negative then "-" else ""
    if m = 0 then sign ++ "0.0"
    else
      let (q, x) := shortest m e
      let digits := (toString q).toList
      sign ++ placePoint digits (digits.length + x)

example : (ofDecimal false 1 (-1)).toText = "0.1" := by decide +kernel

example : (ofDecimal false 1 15).toText = "1000000000000000.0" := by decide +kernel

example : (ofDecimal false 1 16).toText = "1e+16" := by decide +kernel

example : (ofDecimal true 5 (-324)).toText = "-5e-324" := by decide +kernel

/-! ## Reading -/

/-- Digits of a text as ASCII, other characters as they are. -/
def asciiDigits (s : List Char) : List Char :=
  s.map fun c => match Text.digit? c with
    | some d => Char.ofNat (48 + d)
    | none => c

/-- The text without its low lines; nothing if one does not stand between two digits. -/
def dropLowLines (previous : Char) : List Char → Option (List Char)
  | [] => some []
  | c :: rest =>
    if c == '_' then
      if previous.isDigit && rest.head?.any Char.isDigit then dropLowLines c rest else none
    else (dropLowLines c rest).map (c :: ·)

/-- An exponent: a mark `e`, a sign or none, and digits.  An empty text is the exponent zero. -/
def exponent? : List Char → Option Int
  | [] => some 0
  | c :: rest =>
    if c == 'e' || c == 'E' then
      let (negative, digits) := Numeral.takeSign rest
      if digits.isEmpty || !digits.all Char.isDigit then none
      else some (if negative then -(Numeral.ofAscii digits : Int) else Numeral.ofAscii digits)
    else none

/-- A decimal number without a sign: digits, a point or none, more digits, an exponent or none. -/
def unsigned? (negative : Bool) (s : List Char) : Option Binary64 :=
  let whole := s.takeWhile Char.isDigit
  let rest := s.dropWhile Char.isDigit
  let fraction := match rest with
    | '.' :: r => r.takeWhile Char.isDigit
    | _ => []
  let rest := match rest with
    | '.' :: r => r.dropWhile Char.isDigit
    | r => r
  if whole.isEmpty && fraction.isEmpty then none
  else (exponent? rest).map fun e =>
    ofDecimal negative (Numeral.ofAscii (whole ++ fraction)) (e - fraction.length)

/-- Reads a number, blanks around it not counted. -/
def ofText? (text : String) : Option Binary64 := do
  let s ← dropLowLines ' ' (asciiDigits (Numeral.trimField text.toList))
  let (negative, s) := Numeral.takeSign s
  let word := String.ofList (s.map Char.toLower)
  if word = "inf" ∨ word = "infinity" then some (infinite negative)
  else if word = "nan" then some nan
  else unsigned? negative s

example : ofText? " +1_0.5e1 " = some (ofDecimal false 105 0) := by decide +kernel

example : ofText? "-Infinity" = some (infinite true) := by decide +kernel

example : ofText? "1e" = none := by decide +kernel

end CoinPuzzles.Binary64
