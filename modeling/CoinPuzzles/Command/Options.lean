import CoinPuzzles.Text.DecimalDigit
import CoinPuzzles.Text.Search

/-!
# Command/Options — the options on a command line

A word that starts with a dash names an option, in full or by a start that no other option shares.
The value of an option is the next word, or stands in the same word after an equals sign.  Plain
are the words without a dash, those that look like negative numbers, those with a blank that name
no option, and all words after a double dash.
-/

namespace CoinPuzzles

/-- Why a command line is not understood. -/
inductive UsageError where
  /-- Help is asked for in place of a command. -/
  | helpWanted
  | unknownOption (word : String)
  | ambiguousOption (word : String)
  | missingValue (option : String)
  | unexpectedValue (option : String)
  | missingOption (option : String)
  | invalidNumber (option text : String)
  | missingCommand
  | unknownCommand (word : String)
  /-- A command has too few or too many words. -/
  | wrongWords (command : String)
deriving DecidableEq

/-- The wording of a misuse. -/
def UsageError.message : UsageError → String
  | .helpWanted => "commands: parse-puzzle, parse-block, coin-name, combine-bundles"
  | .unknownOption word => "unknown option " ++ word
  | .ambiguousOption word => "ambiguous option " ++ word
  | .missingValue option => option ++ " needs a value"
  | .unexpectedValue option => option ++ " takes no value"
  | .missingOption option => option ++ " is required"
  | .invalidNumber option text => option ++ " needs an integer, got " ++ text
  | .missingCommand => "a command is required"
  | .unknownCommand word => "unknown command " ++ word
  | .wrongWords command => "wrong number of words for " ++ command

/-- The options of a command: those that take a value, and the flags, which take none. -/
structure Options where
  valued : List String
  flags : List String

/-- What a word of a command line is. -/
inductive Word where
  | plain
  /-- The options that the word may name, and the value in it. -/
  | option (names : List String) (value : Option String)
deriving DecidableEq

/-- The flags that were given, and the options with their values, in order. -/
structure Given where
  flags : List String
  values : List (String × String)

namespace Given

/-- Nothing was given. -/
def empty : Given := ⟨[], []⟩

/-- A flag was given too, before the others. -/
def withFlag (name : String) (g : Given) : Given := { g with flags := name :: g.flags }

/-- An option was given too, before the others. -/
def withValue (name value : String) (g : Given) : Given :=
  { g with values := (name, value) :: g.values }

/-- The values of an option, in order. -/
def all (g : Given) (name : String) : List String :=
  (g.values.filter (·.1 == name)).map (·.2)

/-- The value of an option; the last one counts. -/
def last? (g : Given) (name : String) : Option String := (g.all name).getLast?

/-- The value of an option that has to be there. -/
def require (g : Given) (name : String) : Except UsageError String :=
  match g.last? name with
  | some value => .ok value
  | none => .error (.missingOption name)

@[simp] theorem all_empty (name : String) : empty.all name = [] := rfl

@[simp] theorem all_withFlag (g : Given) (flag name : String) :
    (g.withFlag flag).all name = g.all name := rfl

/-- **A value given comes before those given later.** -/
@[simp] theorem all_withValue (g : Given) (name value : String) :
    (g.withValue name value).all name = value :: g.all name := by
  simp [all, withValue]

end Given

/-- Whether a text looks like a negative number: a dash, and digits with at most one point, which
digits follow. -/
def looksNegative (s : List Char) : Bool :=
  let isDigit (c : Char) : Bool := (Text.digit? c).isSome
  match s with
  | '-' :: rest =>
    let line := if rest.getLast? == some '\n' then rest.dropLast else rest
    match line.dropWhile isDigit with
    | [] => !line.isEmpty
    | '.' :: fraction => !fraction.isEmpty && fraction.all isDigit
    | _ => false
  | _ => false

namespace Options

/-- The names of the options; help is always one. -/
def names (o : Options) : List String := ["-h", "--help"] ++ o.valued ++ o.flags

/-- The options that a word may name. -/
def matching (o : Options) (name : List Char) : List String :=
  if ['-', '-'].isPrefixOf name then o.names.filter fun n => name.isPrefixOf n.toList else []

/-- What a word is. -/
def classify (o : Options) (word : String) : Word :=
  match word.toList with
  | '-' :: c :: rest =>
    let s := '-' :: c :: rest
    let (name, value) := match Text.splitAt? '=' s with
      | some (name, value) => (name, some (String.ofList value))
      | none => (s, none)
    if o.names.contains word then .option [word] none
    else if value.isSome ∧ o.names.contains (String.ofList name) then
      .option [String.ofList name] value
    else
      match o.matching name with
      | [] => if looksNegative s || s.contains ' ' then .plain else .option [] none
      | matching => .option matching value
  | _ => .plain

/-- Reads the options at the start of a command line, up to a plain word or a double dash. -/
def take (o : Options) : List String → Except UsageError (Given × List String)
  | [] => .ok (.empty, [])
  | word :: rest =>
    if word = "--" then .ok (.empty, word :: rest)
    else
      match o.classify word with
      | .plain => .ok (.empty, word :: rest)
      | .option [] _ => .error (.unknownOption word)
      | .option (_ :: _ :: _) _ => .error (.ambiguousOption word)
      | .option [name] (some value) =>
        if o.valued.contains name then do
          let (g, rest) ← o.take rest
          return (g.withValue name value, rest)
        else .error (.unexpectedValue name)
      | .option [name] none =>
        if o.valued.contains name then
          match rest with
          | value :: rest =>
            if value ≠ "--" ∧ o.classify value = .plain then do
              let (g, rest) ← o.take rest
              return (g.withValue name value, rest)
            else .error (.missingValue name)
          | [] => .error (.missingValue name)
        else if o.flags.contains name then do
          let (g, rest) ← o.take rest
          return (g.withFlag name, rest)
        else .error .helpWanted

/-- The plain words of a command line; no option may stand among them. -/
def words (o : Options) : List String → Except UsageError (List String)
  | [] => .ok []
  | word :: rest =>
    if word = "--" then .ok rest
    else
      match o.classify word with
      | .plain => (o.words rest).map (word :: ·)
      | .option _ _ => .error (.unknownOption word)

end Options

end CoinPuzzles
