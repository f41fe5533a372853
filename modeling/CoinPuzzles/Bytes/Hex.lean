import CoinPuzzles.Bytes.Basic
import CoinPuzzles.Bytes.Digits
import CoinPuzzles.Text.Blank
import CoinPuzzles.Text.Quoted

/-!
# Bytes/Hex — byte strings as hexadecimal text

A byte string is written as two lower-case digits a byte, with or without the mark `0x`.  A reader
drops the blanks around a text and one mark in front of it; the bytes may then be set apart by
ASCII blanks, but the two digits of a byte stand together.  `hexPairs?_hexChars` and
`ofHex_toMarkedHex` say that reading undoes writing.
-/

namespace CoinPuzzles

/-- Why a text was refused as the hexadecimal form of a byte string. -/
inductive HexError where
  /-- The text is no sequence of bytes. -/
  | invalid (text : String)
  /-- The text spells a number of bytes other than the one asked for. -/
  | wrongLength (expected actual : Nat) (text : String)
deriving DecidableEq

/-- The wording of a refusal. -/
def HexError.message : HexError → String
  | .invalid text => "Invalid hex string: " ++ Text.quotedString text
  | .wrongLength expected actual text =>
    "Expected " ++ toString expected ++ " bytes, got " ++ toString actual ++ " from " ++
      Text.quotedString text

namespace Bytes

/-- The two digits of a byte. -/
def hexByte (b : UInt8) : List Char := [hexDigit (b.toNat / 16), hexDigit (b.toNat % 16)]

/-- The digits of a byte string. -/
def hexChars (b : Bytes) : List Char := b.flatMap hexByte

/-- The byte string in digits, without a mark. -/
def toHex (b : Bytes) : String := String.ofList (hexChars b)

/-- The byte string in digits, after the mark `0x`. -/
def toMarkedHex (b : Bytes) : String := "0x" ++ toHex b

/-- Puts the mark `0x` in front of a text that has none. -/
def mark : List Char → List Char
  | '0' :: 'x' :: rest => '0' :: 'x' :: rest
  | s => '0' :: 'x' :: s

/-- Drops one mark, `0x` or `0X`, from the front of a text. -/
def unmark : List Char → List Char
  | '0' :: 'x' :: rest => rest
  | '0' :: 'X' :: rest => rest
  | s => s

/-- The bytes that a text spells, set apart by any ASCII blanks. -/
def hexPairs? : List Char → Option Bytes
  | [] => some []
  | c :: rest =>
    if Text.isAsciiBlank c then hexPairs? rest
    else
      match rest with
      | [] => none
      | d :: rest' =>
        match hexValue? c, hexValue? d with
        | some high, some low => (hexPairs? rest').map (UInt8.ofNat (16 * high + low) :: ·)
        | _, _ => none

/-- The bytes of a text, its blanks and mark dropped. -/
def ofHex? (text : String) : Option Bytes := hexPairs? (unmark (Text.trim text.toList))

/-- Reads a byte string of any length. -/
def ofHex (text : String) : Except HexError Bytes :=
  match ofHex? text with
  | some b => .ok b
  | none => .error (.invalid text)

/-- Reads a byte string of `size` bytes. -/
def ofHexSized (size : Nat) (text : String) : Except HexError Bytes :=
  match ofHex text with
  | .ok b => if b.length = size then .ok b else .error (.wrongLength size b.length text)
  | .error e => .error e

theorem isAsciiBlank_hexDigit {n : Nat} (h : n < 16) : Text.isAsciiBlank (hexDigit n) = false := by
  have : ∀ m : Fin 16, Text.isAsciiBlank (hexDigit m) = false := by decide
  exact this ⟨n, h⟩

theorem isBlank_hexDigit {n : Nat} (h : n < 16) : Text.isBlank (hexDigit n) = false := by
  have : ∀ m : Fin 16, Text.isBlank (hexDigit m) = false := by decide
  exact this ⟨n, h⟩

/-- **Reading the digits of a byte string gives it back.** -/
theorem hexPairs?_hexChars : ∀ b : Bytes, hexPairs? (hexChars b) = some b
  | [] => rfl
  | b :: bs => by
    have hb := b.toNat_lt
    have ih := hexPairs?_hexChars bs
    have hv : 16 * (b.toNat / 16) + b.toNat % 16 = b.toNat := by omega
    rw [hexChars] at ih
    simp only [hexChars, List.flatMap_cons, hexByte, List.cons_append, List.nil_append, hexPairs?,
      isAsciiBlank_hexDigit (show b.toNat / 16 < 16 by omega),
      hexValue?_hexDigit (show b.toNat / 16 < 16 by omega),
      hexValue?_hexDigit (show b.toNat % 16 < 16 by omega), ih, Option.map_some, hv]
    simp

theorem toList_toMarkedHex (b : Bytes) : (toMarkedHex b).toList = '0' :: 'x' :: hexChars b := by
  rw [toMarkedHex, toHex, String.toList_append, String.toList_ofList, String.toList_ofList]
  rfl

theorem isBlank_of_mem_hexChars {b : Bytes} {c : Char} (hc : c ∈ hexChars b) :
    Text.isBlank c = false := by
  obtain ⟨x, -, hx⟩ := List.mem_flatMap.1 hc
  have hlt := x.toNat_lt
  rcases List.mem_cons.1 hx with rfl | hx
  · exact isBlank_hexDigit (by omega)
  · obtain rfl := List.mem_singleton.1 hx
    exact isBlank_hexDigit (by omega)

/-- **Reading the marked digits of a byte string gives it back.** -/
theorem ofHex_toMarkedHex (b : Bytes) : ofHex (toMarkedHex b) = .ok b := by
  have htrim : Text.trim ('0' :: 'x' :: hexChars b) = '0' :: 'x' :: hexChars b := by
    refine Text.trim_eq_self fun c hc => ?_
    rcases List.mem_cons.1 hc with rfl | hc
    · decide
    · rcases List.mem_cons.1 hc with rfl | hc
      · decide
      · exact isBlank_of_mem_hexChars hc
  rw [ofHex, ofHex?, toList_toMarkedHex, htrim, unmark, hexPairs?_hexChars]

end Bytes

end CoinPuzzles
