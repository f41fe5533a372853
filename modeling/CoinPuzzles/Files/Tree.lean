import CoinPuzzles.Bytes.Basic
import CoinPuzzles.Files.Path
import CoinPuzzles.Order.Lexicographic
import CoinPuzzles.Text.Utf8

/-!
# Files/Tree — the files there are

A tree of files under the working directory.  Looking up a path walks it name by name, so a step up
from a directory that is not there leads nowhere.
-/

namespace CoinPuzzles

/-- A tree of files: what each path from the working directory holds, nothing for a directory. -/
structure FileTree where
  home : Path
  entries : List (List String × Option Bytes)

/-- What a path leads to. -/
inductive Found where
  | missing
  /-- A name before the last is that of a file. -/
  | belowFile
  | directory (files : List (String × Bytes))
  | file (content : Bytes)

/-- Why a file has no text. -/
inductive ReadError where
  | missing
  | belowFile
  | isDirectory
  /-- The bytes are no text. -/
  | notText
  /-- A name in the path has the character that ends names for the system. -/
  | embeddedNul
deriving DecidableEq

/-- The wording of a refusal, with the path shown in it. -/
def ReadError.message (shown : String) : ReadError → String
  | .missing => "[Errno 2] No such file or directory: " ++ shown
  | .belowFile => "[Errno 20] Not a directory: " ++ shown
  | .isDirectory => "[Errno 21] Is a directory: " ++ shown
  | .notText => "not a text: " ++ shown
  | .embeddedNul => "embedded null byte"

namespace FileTree

/-- The content of the file at a place. -/
def fileAt? (t : FileTree) (place : List String) : Option Bytes :=
  (t.entries.find? fun e => e.1 == place && e.2.isSome).bind (·.2)

/-- Whether there is a directory at a place: the working directory, one that is listed, or one that
holds something listed. -/
def hasDirectory (t : FileTree) (place : List String) : Bool :=
  place.isEmpty || t.entries.any fun e =>
    place.isPrefixOf e.1 && (e.2.isNone || place.length < e.1.length)

/-- The files in the directory at a place, by name. -/
def filesIn (t : FileTree) (place : List String) : List (String × Bytes) :=
  let here := t.entries.filterMap fun (path, content) =>
    match content, path.getLast? with
    | some b, some name => if path.dropLast == place then some (name, b) else none
    | _, _ => none
  here.mergeSort fun a b => Order.atMost Char.toNat a.1.toList b.1.toList

/-- Walks names from a directory, `place` with its last name first. -/
def walk (t : FileTree) : List String → List String → Found
  | place, [] => .directory (t.filesIn place.reverse)
  | place, name :: rest =>
    if name = ".." then
      match place with
      | [] => if rest.all (· == "..") then .directory [] else .missing
      | _ :: up => walk t up rest
    else
      let place := name :: place
      if t.hasDirectory place.reverse then walk t place rest
      else
        match t.fileAt? place.reverse with
        | some b => if rest.isEmpty then .file b else .belowFile
        | none => .missing

/-- What a path leads to. -/
def find (t : FileTree) (p : Path) : Found :=
  if p.hasNul then .missing
  else if p.root = "" then t.walk [] p.names
  else if p.names.all (· == "..") then .directory []
  else .missing

/-- Whether a path leads to anything. -/
def exists? (t : FileTree) (p : Path) : Bool :=
  match t.find p with
  | .missing => false
  | .belowFile => false
  | .directory _ => true
  | .file _ => true

/-- The text of the file at a path.  A path with a name that nothing can have is not just missing:
the system refuses to open it. -/
def readText (t : FileTree) (p : Path) : Except ReadError String :=
  if p.hasNul then .error .embeddedNul
  else
    match t.find p with
    | .missing => .error .missing
    | .belowFile => .error .belowFile
    | .directory _ => .error .isDirectory
    | .file b =>
      match Text.ofFile? b with
      | some s => .ok s
      | none => .error .notText

end FileTree

end CoinPuzzles
