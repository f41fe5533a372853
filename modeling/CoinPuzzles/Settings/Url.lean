import CoinPuzzles.Number.Numeral
import CoinPuzzles.Text.Lowercase
import CoinPuzzles.Text.Search

/-!
# Settings/Url — addresses of services

An address has a scheme up to the first colon and, after two slashes, an authority up to the next
slash, question mark or hash.  The authority may name a user before an at sign; a host between
brackets has to be an address of the sixth version of the internet protocol, or of a future one.
-/

namespace CoinPuzzles.Url

/-- Why a text is no address. -/
inductive UrlError where
  /-- The brackets around a host do not match, or stand in the wrong place. -/
  | brackets
  /-- The host between brackets is no address. -/
  | notAnAddress (host : String)
  /-- The host between brackets is an address of the fourth version. -/
  | version4
  /-- The host between brackets announces a future version and is malformed. -/
  | futureVersion
  /-- A character of the authority stands for one that ends it. -/
  | lookalike (authority : String)
deriving DecidableEq

/-- The wording of a refusal. -/
def UrlError.message : UrlError → String
  | .brackets => "Invalid IPv6 URL"
  | .notAnAddress host =>
    Text.quotedString host ++ " does not appear to be an IPv4 or IPv6 address"
  | .version4 => "An IPv4 address cannot be in brackets"
  | .futureVersion => "IPvFuture address is invalid"
  | .lookalike authority =>
    "netloc \x27" ++ authority ++ "\x27 contains invalid characters under NFKC normalization"

/-! ## Addresses between brackets -/

/-- Whether a text is a number below 256 in digits, without leading zeros. -/
def isOctet (s : List Char) : Bool :=
  !s.isEmpty && s.length ≤ 3 && s.all Char.isDigit && (s.length == 1 || s.head? != some '0') &&
    Numeral.ofAscii s < 256

/-- Whether a text is an address of the fourth version: four octets. -/
def isVersion4 (s : List Char) : Bool :=
  let parts := s.splitOn '.'
  parts.length == 4 && parts.all isOctet

/-- Whether a text is a group of an address of the sixth version. -/
def isGroup (s : List Char) : Bool := !s.isEmpty && s.length ≤ 4 && s.all Bytes.isHexDigit

/-- Whether groups, an empty one standing for as many as are left out, make up eight. -/
def areGroups (parts : List (List Char)) : Bool :=
  let inner := parts.tail.dropLast
  let gaps := (inner.filter List.isEmpty).length
  if gaps = 0 then parts.length == 8 && parts.all isGroup
  else if gaps = 1 then
    let before := parts.takeWhile fun p => !p.isEmpty
    let startsEmpty := parts.head?.any List.isEmpty
    let endsEmpty := parts.getLast?.any List.isEmpty
    let high := if startsEmpty then [] else before
    let low := if startsEmpty then parts.drop 2 else parts.drop (before.length + 1)
    let low := if endsEmpty then low.dropLast else low
    (!startsEmpty || (parts.drop 1).head?.any List.isEmpty) &&
      (!endsEmpty || low.isEmpty) && high.all isGroup && low.all isGroup &&
      high.length + low.length < 8
  else false

/-- Whether a text is an address of the sixth version, with a zone or none. -/
def isVersion6 (s : List Char) : Bool :=
  let (address, zoneFine) := match Text.splitAt? '%' s with
    | some (a, zone) => (a, !zone.isEmpty && !zone.contains '%')
    | none => (s, true)
  let parts := address.splitOn ':'
  let last := parts.getLastD []
  let grouped :=
    if last.contains '.' then
      if isVersion4 last then some (parts.dropLast ++ [['0'], ['0']]) else none
    else some parts
  zoneFine && !s.contains '/' && 3 ≤ parts.length &&
    (match grouped with
    | some groups => groups.length ≤ 9 && areGroups groups
    | none => false)

/-- Whether a text announces a future version in the right form. -/
def isFutureVersion (s : List Char) : Bool :=
  match s with
  | 'v' :: rest =>
    let digits := rest.takeWhile Bytes.isHexDigit
    match rest.drop digits.length with
    | '.' :: host => !digits.isEmpty && !host.isEmpty && !host.contains '\n'
    | _ => false
  | _ => false

/-- Checks a host between brackets. -/
def checkBracketed (host : List Char) : Except UrlError Unit :=
  if host.head? == some 'v' then
    if isFutureVersion host then .ok () else .error .futureVersion
  else if isVersion4 host then .error .version4
  else if isVersion6 host then .ok ()
  else .error (.notAnAddress (String.ofList host))

/-! ## Parts of an address -/

/-- The characters that stand for one that ends an authority, once they are decomposed. -/
def lookalikes : List Nat := [
  0x2047, 0x2048, 0x2049, 0x2100, 0x2101, 0x2105, 0x2106, 0x2A74, 0xFE13, 0xFE16, 0xFE55, 0xFE56,
  0xFE5F, 0xFE6B, 0xFF03, 0xFF0F, 0xFF1A, 0xFF1F, 0xFF20]

/-- A character that a scheme may have after its first letter. -/
def isSchemeChar (c : Char) : Bool := c.isAlphanum || c == '+' || c == '-' || c == '.'

/-- The text without the controls and spaces in front, and without tabs and line ends. -/
def clean (s : List Char) : List Char :=
  (s.dropWhile fun c => decide (c.toNat ≤ 0x20)).filter fun c =>
    !(c == '\t' || c == '\r' || c == '\n')

/-- The scheme in lower case, empty if there is none, and what follows it. -/
def splitScheme (s : List Char) : List Char × List Char :=
  match Text.splitAt? ':' s with
  | some (c :: cs, rest) =>
    if c.isAlpha && cs.all isSchemeChar then (Text.lower (c :: cs), rest) else ([], s)
  | _ => ([], s)

/-- The authority after two slashes, empty if there is none. -/
def authority : List Char → List Char
  | '/' :: '/' :: rest => rest.takeWhile fun c => !(c == '/' || c == '?' || c == '#')
  | _ => []

/-- What follows the last place of a character, or all. -/
def afterLast (c : Char) (s : List Char) : List Char :=
  match Text.splitAtLast? c s with
  | some (_, rest) => rest
  | none => s

/-- What stands before the first place of a character, or all. -/
def beforeFirst (c : Char) (s : List Char) : List Char := s.takeWhile (· != c)

/-- Checks the brackets of an authority. -/
def checkBrackets (s : List Char) : Except UrlError Unit :=
  if s.contains '[' != s.contains ']' then .error .brackets
  else if !s.contains '[' then .ok ()
  else
    let host := afterLast '@' s
    match Text.splitAt? '[' host with
    | some (before, bracketed) =>
      if !before.isEmpty then .error .brackets
      else
        let inside := beforeFirst ']' bracketed
        match bracketed.drop (inside.length + 1) with
        | [] => checkBracketed inside
        | c :: _ => if c == ':' then checkBracketed inside else .error .brackets
    | none => checkBracketed (beforeFirst ':' host)

/-- The host of an authority. -/
def hostOf (s : List Char) : List Char :=
  let host := afterLast '@' s
  match Text.splitAt? '[' host with
  | some (_, bracketed) => beforeFirst ']' bracketed
  | none => beforeFirst ':' host

/-- Whether a text is the address of a service: its scheme is one of the web and it has a host. -/
def isService (text : String) : Except UrlError Bool := do
  let (scheme, rest) := splitScheme (clean text.toList)
  let place := authority rest
  checkBrackets place
  if place.any fun c => lookalikes.contains c.toNat then
    .error (.lookalike (String.ofList place))
  else
    return (scheme == "http".toList || scheme == "https".toList) && !(hostOf place).isEmpty

example : isService "HTTP://user@[::1]:80/x" = .ok true := rfl

example : isService "http://[1.2.3.4]/" = .error .version4 := rfl

example : isService "ftp://host/" = .ok false := rfl

end CoinPuzzles.Url
