/-!
# Cat/Memo — memos made safe for a token

The characters that would end or change a token of assembly text are replaced by a low line.
-/

namespace CoinPuzzles.Memo

/-- The characters that a memo may not keep. -/
def unsafeChars : List Char := [
  '&', '/', '\x5c', '#', ',', '+', '(', ')', '$', '~', '%', '.', '\x27', '\x22', ':', '*', '?',
  '<', '>', '\x7b', '\x7d', '[', ']', ' ']

/-- A character that a memo may keep, or a low line. -/
def safeChar (c : Char) : Char := if unsafeChars.contains c then '_' else c

/-- The memo with every unsafe character replaced. -/
def sanitize (memo : String) : String := String.ofList (memo.toList.map safeChar)

end CoinPuzzles.Memo
