import CoinPuzzles.Program.Curry
import CoinPuzzles.Template.Registry
import CoinPuzzles.Text.Search

/-!
# Puzzle/Node — puzzles as trees of templates

A node is a template with arguments, or a program that is not recognised, kept as its text.  A node
knows the program it stands for (`rebuild`), its shape as a text (`path`) and a document form with
a reader (`toDocument`, `ofDocument`).
-/

namespace CoinPuzzles

/-- A puzzle as far as it is recognised. -/
inductive Node where
  /-- A program that is not recognised, as hexadecimal text. -/
  | raw (hex : String)
  /-- A template and its arguments; `curried` is false only of the bare template. -/
  | template (name : String) (args : List Node) (curried : Bool)

/-- Why a node stands for no program. -/
inductive RebuildError where
  /-- The text of a leaf spells no program. -/
  | program (cause : ProgramError)
  /-- A template is not registered. -/
  | registry (cause : RegistryError)
deriving DecidableEq

/-- The wording of a refusal. -/
def RebuildError.message : RebuildError → String
  | .program cause => cause.message
  | .registry cause => cause.message

/-- Why a value is no document of a node. -/
inductive NodeError where
  /-- A value is not of a kind that has fields or items. -/
  | wrongShape
  /-- A value is neither a leaf nor a template. -/
  | neither
  /-- A leaf or the name of a template is a value with an integer that has too many digits. -/
  | numeral (cause : NumeralError)
deriving DecidableEq

/-- The wording of a refusal. -/
def NodeError.message : NodeError → String
  | .wrongShape => "value of the wrong kind"
  | .neither => "Simplified puzzle node must contain 'raw' or 'mod'"
  | .numeral cause => cause.message

namespace Node

instance : Inhabited Node := ⟨raw ""⟩

/-! ## Equality

Two nodes are the same if they name the same templates and hold the same leaves; whether a template
counts as curried is not compared. -/

mutual

/-- Whether two nodes are the same. -/
def same : Node → Node → Bool
  | raw a, raw b => a == b
  | template m as _, template n bs _ => m == n && sameAll as bs
  | _, _ => false

/-- Whether two lists of nodes are the same. -/
def sameAll : List Node → List Node → Bool
  | [], [] => true
  | a :: as, b :: bs => same a b && sameAll as bs
  | _, _ => false

end

/-! ## Shape -/

mutual

/-- The names of the templates, with brackets around what is nested in one; leaves are left out. -/
def path : Node → String
  | raw _ => ""
  | template name args _ => name ++ "(" ++ String.intercalate "," (paths args) ++ ")"

/-- The paths of the nodes that have one. -/
def paths : List Node → List String
  | [] => []
  | a :: as => if path a == "" then paths as else path a :: paths as

end

/-! ## The program of a node -/

mutual

/-- The program that a node stands for. -/
def rebuild (r : Registry) : Node → Except RebuildError Program
  | raw hex => (Program.ofHex hex).mapError .program
  | template name args curried => do
    let t ← (r.get name).mapError .registry
    if args.isEmpty && !curried then return t.program
    else return t.program.curry (← rebuildAll r args)

/-- The programs that nodes stand for. -/
def rebuildAll (r : Registry) : List Node → Except RebuildError (List Program)
  | [] => .ok []
  | a :: as => do
    let p ← rebuild r a
    return p :: (← rebuildAll r as)

end

/-! ## Documents -/

mutual

/-- The document of a node.  A curried template without arguments says so. -/
def toDocument : Node → Value
  | raw hex => .object [("raw", .text hex)]
  | template name args curried =>
    .object ([("mod", .text name), ("args", .list (toDocuments args))] ++
      if curried && args.isEmpty then [("curried", .bool true)] else [])

/-- The documents of nodes. -/
def toDocuments : List Node → List Value
  | [] => []
  | a :: as => toDocument a :: toDocuments as

end

/-- A text in place of a node: it has no fields, whatever it says. -/
def ofText (s : String) : Except NodeError Node :=
  if Text.holds "raw".toList s.toList || Text.holds "mod".toList s.toList then .error .wrongShape
  else .error .neither

/-- Whether a value is the given text. -/
def isText (s : String) : Value → Bool
  | .text t => t == s
  | _ => false

/-- A key of a map in place of a node. -/
def ofKey : Value → Except NodeError Node
  | .text s => ofText s
  | _ => .error .wrongShape

/-- Whether a template with these fields counts as curried. -/
def curriedIn (entries : List (Value × Value)) : Bool :=
  ((Value.find? "args" entries).any Value.truthy) ||
    ((Value.find? "curried" entries).any Value.truthy)

mutual

/-- The node of a document. -/
def ofDocument : Value → Except NodeError Node
  | .map entries =>
    match Value.find? "raw" entries with
    | some v => return raw (← v.write.mapError .numeral)
    | none =>
      match Value.find? "mod" entries with
      | none => .error .neither
      | some name => do
        let name ← name.write.mapError .numeral
        return template name (← argumentsIn entries) (curriedIn entries)
  | .text s => ofText s
  | .list items =>
    if items.any (isText "raw") || items.any (isText "mod") then .error .wrongShape
    else .error .neither
  | _ => .error .wrongShape

/-- The nodes of the arguments among the fields of a template. -/
def argumentsIn : List (Value × Value) → Except NodeError (List Node)
  | [] => .ok []
  | (k, v) :: rest => if isText "args" k then ofItems v else argumentsIn rest

/-- The nodes of the items of a value. -/
def ofItems : Value → Except NodeError (List Node)
  | .list items => ofDocuments items
  | .text s => s.toList.mapM fun c => ofText c.toString
  | .bytes b => if b.isEmpty then .ok [] else .error .wrongShape
  | .map entries => entries.mapM fun e => ofKey e.1
  | _ => .error .wrongShape

/-- The nodes of documents. -/
def ofDocuments : List Value → Except NodeError (List Node)
  | [] => .ok []
  | v :: vs => do
    let a ← ofDocument v
    return a :: (← ofDocuments vs)

end

end Node

end CoinPuzzles
