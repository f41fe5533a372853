/-!
# Files/Path — names of files

A path is a sequence of names under a root or none; empty names and single dots do not count.  A
first name that starts with a tilde stands for a home directory.
-/

namespace CoinPuzzles

/-- A path: the slashes it starts with, and its names. -/
structure Path where
  root : String
  names : List String
deriving DecidableEq

namespace Path

/-- The slashes that a text starts with: two stay two, more are one. -/
def rootOf : List Char → String
  | '/' :: '/' :: '/' :: _ => "/"
  | '/' :: '/' :: _ => "//"
  | '/' :: _ => "/"
  | _ => ""

/-- The path that a text names. -/
def ofText (text : String) : Path :=
  let s := text.toList
  ⟨rootOf s, ((s.splitOn '/').map String.ofList).filter fun name => name != "" && name != "."⟩

/-- The text of a path; one without names and root is a dot. -/
def toText (p : Path) : String :=
  if p.root = "" ∧ p.names.isEmpty then "." else p.root ++ String.intercalate "/" p.names

/-- Whether a name has the character that ends names for the system; nothing has such a name. -/
def hasNul (p : Path) : Bool := p.names.any fun name => name.toList.contains '\x00'

example : (ofText "a//b/./c/").toText = "a/b/c" := by decide +kernel

example : (ofText "").toText = "." := by decide +kernel

/-- The path with the home directory in place of a tilde; nothing if the tilde names a user whose
home is not known. -/
def expandHome? (p : Path) (home : Path) : Option Path :=
  match p.names with
  | first :: rest =>
    if p.root ≠ "" then some p
    else if first = "~" then some ⟨home.root, home.names ++ rest⟩
    else if first.toList.head? == some '~' then none
    else some p
  | [] => some p

end Path

end CoinPuzzles
