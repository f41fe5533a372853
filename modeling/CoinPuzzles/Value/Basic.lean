import CoinPuzzles.Number.DecimalText
import CoinPuzzles.Value.Calendar

/-!
# Value/Basic — the values a document holds

Documents are trees of scalars, lists and maps; the scalars are null, truth values, numbers, texts,
byte strings, dates and points in time.  A map keeps its entries in the order of their
first appearance; `put` replaces the value of an equal key, so the last value wins.  `display` is
the text a value has inside a message, `inspect` the one it has inside another value; `write` gives
the former if there is one, since an integer may have too many digits for a numeral.
-/

namespace CoinPuzzles

/-- A value of a document. -/
inductive Value where
  | null
  | bool (b : Bool)
  | int (n : Int)
  | float (x : Binary64)
  | text (s : String)
  | bytes (b : Bytes)
  | date (year month day : Nat)
  | moment (m : Moment)
  | list (items : List Value)
  | map (entries : List (Value × Value))

namespace Value

instance : Inhabited Value := ⟨null⟩

/-- Whether a value counts as true: null, zero and whatever is empty do not. -/
def truthy : Value → Bool
  | null => false
  | bool b => b
  | int n => n != 0
  | float x => !x.isZero
  | text s => s != ""
  | bytes b => !b.isEmpty
  | date _ _ _ => true
  | moment _ => true
  | list items => !items.isEmpty
  | map entries => !entries.isEmpty

mutual

/-- The text of a value inside another value. -/
def inspect : Value → String
  | null => "None"
  | bool b => if b then "True" else "False"
  | int n => toString n
  | float x => x.toText
  | text s => Text.quotedString s
  | bytes b => Text.quotedBytes b
  | date y m d =>
    "datetime.date(" ++ toString y ++ ", " ++ toString m ++ ", " ++ toString d ++ ")"
  | moment m => m.inspect
  | list items => "[" ++ inspectItems items ++ "]"
  | map entries => "\x7b" ++ inspectEntries entries ++ "\x7d"

/-- The texts of list items, separated by commas. -/
def inspectItems : List Value → String
  | [] => ""
  | [v] => inspect v
  | v :: rest => inspect v ++ ", " ++ inspectItems rest

/-- The texts of map entries, separated by commas. -/
def inspectEntries : List (Value × Value) → String
  | [] => ""
  | [(k, v)] => inspect k ++ ": " ++ inspect v
  | (k, v) :: rest => inspect k ++ ": " ++ inspect v ++ ", " ++ inspectEntries rest

end

/-- The text of a value on its own. -/
def display : Value → String
  | text s => s
  | date y m d => Calendar.dateText y m d
  | moment m => m.text
  | v => inspect v

mutual

/-- Whether every integer in a value has a numeral. -/
def isWritable : Value → Bool
  | int n => (Numeral.write n).isOk
  | list items => areWritable items
  | map entries => haveWritable entries
  | _ => true

/-- Whether every integer in the items of a list has a numeral. -/
def areWritable : List Value → Bool
  | [] => true
  | v :: rest => isWritable v && areWritable rest

/-- Whether every integer in the entries of a map has a numeral. -/
def haveWritable : List (Value × Value) → Bool
  | [] => true
  | (k, v) :: rest => isWritable k && isWritable v && haveWritable rest

end

/-- Writes a value on its own. -/
def write (v : Value) : Except NumeralError String :=
  if v.isWritable then .ok v.display else .error .tooLongToWrite

/-- What is written of a value is its text, if all of its integers have numerals. -/
theorem write_eq_ok_iff {v : Value} {s : String} :
    v.write = .ok s ↔ v.isWritable = true ∧ v.display = s := by
  rw [write]
  split
  · next h => simp [h]
  · next h => simp [h]

example : inspect (.list [.text "a", .float (.ofDecimal false 15 (-1)), .null]) =
    "[\x27a\x27, 1.5, None]" := by decide +kernel

/-! ## Keys of a map -/

/-- The integer that a number or truth value is equal to. -/
def integral? : Value → Option Int
  | bool b => some (if b then 1 else 0)
  | int n => some n
  | float x => x.toInt?
  | _ => none

/-- Whether two scalars are the same key: numbers are compared by their worth. -/
def sameKey (a b : Value) : Bool :=
  match integral? a, integral? b with
  | some m, some n => m == n
  | some _, none => false
  | none, some _ => false
  | none, none =>
    match a, b with
    | null, null => true
    | text s, text t => s == t
    | bytes b, bytes c => b == c
    | moment m, moment n => m.same n
    | date y m d, date y' m' d' => y == y' && m == m' && d == d'
    | float x, float y => x == y && x != .nan
    | _, _ => false

/-- Sets the value of a key, in its place if the map has it and at the end if not. -/
def put (k v : Value) : List (Value × Value) → List (Value × Value)
  | [] => [(k, v)]
  | (k', v') :: rest => if sameKey k' k then (k', v) :: rest else (k', v') :: put k v rest

/-- The value of a text key. -/
def find? (key : String) (entries : List (Value × Value)) : Option Value :=
  (entries.find? fun e => match e.1 with
    | text s => s == key
    | _ => false).map (·.2)

/-- A map with text keys. -/
def object (fields : List (String × Value)) : Value :=
  map (fields.map fun (k, v) => (text k, v))

end Value

end CoinPuzzles
