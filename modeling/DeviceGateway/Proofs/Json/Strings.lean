/-
# Strings of JSON read back

A quoted string is read as the pieces that its characters were written as: an escaped letter or a
character as bytes, any other control character as a unit.  Put together again, the pieces are the bytes
of the text.
-/

import DeviceGateway.Json.Printer
import DeviceGateway.Json.Reader
import DeviceGateway.Proofs.Text.Utf8

namespace DeviceGateway.Json

open Utf8 (encode)

namespace Reader

/-- A byte that stands for itself in a string. -/
def IsPlain (b : UInt8) : Prop := b ≠ 0x22 ∧ b ≠ 0x5C ∧ 0x20 ≤ b.toNat

theorem textAfter?_plain {b : UInt8} (plain : IsPlain b) (before : List Piece) (rest : Bytes) :
    textAfter? before (b :: rest) = textAfter? (.byte b :: before) rest := by
  obtain ⟨noQuote, noEscape, noControl⟩ := plain
  rw [textAfter?.eq_def]
  split
  case h_1 same => cases same
  case h_2 same => exact absurd (List.cons.inj same).1 noQuote
  case h_3 same => exact absurd (List.cons.inj same).1 noEscape
  case h_4 same => exact absurd (List.cons.inj same).1 noEscape
  case h_5 b' rest' _ _ _ same =>
    obtain ⟨rfl, rfl⟩ := List.cons.inj same
    have control : ¬ b < 0x20 := Nat.not_lt_of_le noControl
    simp [control, noEscape]

theorem textAfter?_bytes {bytes : Bytes} (plain : ∀ b ∈ bytes, IsPlain b) (before : List Piece)
    (rest : Bytes) :
    textAfter? before (bytes ++ rest) = textAfter? ((bytes.map Piece.byte).reverse ++ before) rest := by
  induction bytes generalizing before with
  | nil => rfl
  | cons b more ih =>
    rw [List.cons_append, textAfter?_plain (plain b List.mem_cons_self),
      ih fun b member => plain b (List.mem_cons_of_mem _ member)]
    simp

/-- Whether a character has an escape of its own letter. -/
def HasLetter (c : Char) : Prop := c.toNat ∈ [0x08, 0x09, 0x0A, 0x0C, 0x0D]

instance (c : Char) : Decidable (HasLetter c) := inferInstanceAs (Decidable (_ ∈ _))

/-- The pieces that a character is read as. -/
def charPieces (c : Char) : List Piece :=
  if c.toNat < 0x20 ∧ ¬ HasLetter c then [.unit c.toNat]
  else (String.utf8EncodeChar c).map .byte

theorem hexDigit?_hexDigit : ∀ n < 16, hexDigit? (ascii (hexDigit n)) = some n ∧
    String.utf8EncodeChar (hexDigit n) = [ascii (hexDigit n)] := by
  decide

/-- The escape of a control character is read as a unit. -/
theorem textAfter?_unit {n : Nat} (small : n < 0x20) (before : List Piece) (rest : Bytes) :
    textAfter? before (encode ['\\', 'u', '0', '0', hexDigit (n / 16), hexDigit (n % 16)] ++ rest) =
      textAfter? (.unit n :: before) rest := by
  obtain ⟨high, highByte⟩ := hexDigit?_hexDigit (n / 16) (by omega)
  obtain ⟨low, lowByte⟩ := hexDigit?_hexDigit (n % 16) (by omega)
  have bytes : encode ['\\', 'u', '0', '0', hexDigit (n / 16), hexDigit (n % 16)] =
      [0x5C, 0x75, 0x30, 0x30, ascii (hexDigit (n / 16)), ascii (hexDigit (n % 16))] := by
    simp only [Utf8.encode_cons, highByte, lowByte]
    rfl
  have zero : hexDigit? 0x30 = some 0 := rfl
  have whole : ((0 * 16 + 0) * 16 + n / 16) * 16 + n % 16 = n := by omega
  rw [bytes]
  simp only [List.cons_append, List.nil_append]
  rw [textAfter?, zero, high, low]
  simp only [whole]

/-- The bytes of a character that needs no escape stand for themselves. -/
theorem isPlain_of_mem {c : Char} (noQuote : c ≠ '"') (noEscape : c ≠ '\\')
    (visible : ¬ c.toNat < 0x20) {b : UInt8} (member : b ∈ String.utf8EncodeChar c) : IsPlain b := by
  by_cases ascii : c.toNat < 0x80
  · rw [Utf8.utf8EncodeChar_of_lt ascii, List.mem_singleton] at member
    have value : b.toNat = c.toNat := by rw [member, Utf8.toNat_ofNat (by omega)]
    have apart : ∀ d : Char, c ≠ d → b.toNat ≠ d.toNat := fun d different same =>
      different (Char.toNat_inj.1 (value.symm.trans same))
    refine ⟨?_, ?_, by omega⟩
    · rintro rfl
      exact apart _ noQuote rfl
    · rintro rfl
      exact apart _ noEscape rfl
  · have high := Utf8.le_of_mem_utf8EncodeChar (Nat.le_of_not_lt ascii) member
    refine ⟨?_, ?_, by omega⟩
    · rintro rfl
      exact absurd high (by decide)
    · rintro rfl
      exact absurd high (by decide)

/-- A control character without a letter is written as a unit. -/
theorem escape_control {c : Char} (control : c.toNat < 0x20) (plain : ¬ HasLetter c) :
    escape c = ['\\', 'u', '0', '0', hexDigit (c.toNat / 16), hexDigit (c.toNat % 16)] := by
  have noQuote : c ≠ '"' := by
    rintro rfl
    exact absurd control (by decide)
  have noEscape : c ≠ '\\' := by
    rintro rfl
    exact absurd control (by decide)
  simp only [HasLetter, List.mem_cons, List.not_mem_nil, or_false, not_or] at plain
  obtain ⟨noB, noT, noN, noF, noR⟩ := plain
  rw [escape, if_neg noQuote, if_neg noEscape, if_pos control, if_neg noB, if_neg noT, if_neg noN,
    if_neg noF, if_neg noR]

theorem textAfter?_escape (c : Char) (before : List Piece) (rest : Bytes) :
    textAfter? before (encode (escape c) ++ rest) =
      textAfter? ((charPieces c).reverse ++ before) rest := by
  by_cases letter : HasLetter c
  · have same : ∀ n, c.toNat = n → c = Char.ofNat n := fun n eq => by rw [← eq, Char.ofNat_toNat]
    simp only [HasLetter, List.mem_cons, List.not_mem_nil, or_false] at letter
    rcases letter with isB | isT | isN | isF | isR
    · obtain rfl := same _ isB; rfl
    · obtain rfl := same _ isT; rfl
    · obtain rfl := same _ isN; rfl
    · obtain rfl := same _ isF; rfl
    · obtain rfl := same _ isR; rfl
  · by_cases control : c.toNat < 0x20
    · have unit : charPieces c = [.unit c.toNat] := if_pos ⟨control, letter⟩
      rw [escape_control control letter, textAfter?_unit control, unit]
      rfl
    · by_cases isQuote : c = '"'
      · subst isQuote; rfl
      · by_cases isEscape : c = '\\'
        · subst isEscape; rfl
        · have bytes : charPieces c = (String.utf8EncodeChar c).map .byte :=
            if_neg fun both => control both.1
          rw [escape, if_neg isQuote, if_neg isEscape, if_neg control, Utf8.encode_cons,
            Utf8.encode_nil, List.append_nil, bytes,
            textAfter?_bytes fun b => isPlain_of_mem isQuote isEscape control]

/-- What is read between the quotes of a text. -/
def textPieces (text : String) : List Piece := text.toList.flatMap charPieces

theorem textAfter?_flatMap_escape (text : List Char) (before : List Piece) (rest : Bytes) :
    textAfter? before (encode (text.flatMap escape ++ ['"']) ++ rest) =
      some (before.reverse ++ text.flatMap charPieces, rest) := by
  induction text generalizing before with
  | nil =>
    rw [List.flatMap_nil, List.flatMap_nil, List.append_nil]
    rfl
  | cons c more ih =>
    rw [List.flatMap_cons, List.append_assoc, Utf8.encode_append, List.append_assoc,
      textAfter?_escape, ih]
    simp

theorem text?_quote (text : String) (rest : Bytes) :
    text? (encode (text.toList.flatMap escape ++ ['"']) ++ rest) = some (textPieces text, rest) :=
  textAfter?_flatMap_escape text.toList [] rest

end Reader

open Reader

/-- A unit that is a character by itself has the bytes of the character. -/
theorem pieceBytes?_unit (c : Char) (before : Bytes) (rest : List Piece) :
    pieceBytes? before (.unit c.toNat :: rest) =
      pieceBytes? ((String.utf8EncodeChar c).reverse ++ before) rest := by
  have bytes : codePoint c.toNat = String.utf8EncodeChar c := by rw [codePoint, Char.ofNat_toNat]
  have noHigh : ¬ (0xD800 ≤ c.toNat ∧ c.toNat ≤ 0xDBFF) := by
    have := Utf8.toNat_valid c
    omega
  have noLow : ¬ (0xDC00 ≤ c.toNat ∧ c.toNat ≤ 0xDFFF) := by
    have := Utf8.toNat_valid c
    omega
  have noSurrogate : ¬ (0xD800 ≤ c.toNat ∧ c.toNat ≤ 0xDFFF) := by
    have := Utf8.toNat_valid c
    omega
  rw [← bytes]
  cases rest with
  | nil => exact if_neg noSurrogate
  | cons piece more =>
    cases piece with
    | byte b => exact if_neg noSurrogate
    | unit low => exact (if_neg noHigh).trans (if_neg noLow)

theorem pieceBytes?_bytes (bytes before : Bytes) (rest : List Piece) :
    pieceBytes? before (bytes.map .byte ++ rest) = pieceBytes? (bytes.reverse ++ before) rest := by
  induction bytes generalizing before with
  | nil => rfl
  | cons b more ih =>
    rw [List.map_cons, List.cons_append, pieceBytes?, ih]
    simp

theorem pieceBytes?_charPieces (c : Char) (before : Bytes) (rest : List Piece) :
    pieceBytes? before (charPieces c ++ rest) =
      pieceBytes? ((String.utf8EncodeChar c).reverse ++ before) rest := by
  unfold charPieces
  split
  case isTrue => rw [List.singleton_append, pieceBytes?_unit]
  case isFalse => exact pieceBytes?_bytes _ before rest

theorem pieceBytes?_flatMap_charPieces (text : List Char) (before : Bytes) :
    pieceBytes? before (text.flatMap charPieces) = some (before.reverse ++ encode text) := by
  induction text generalizing before with
  | nil => simp [pieceBytes?]
  | cons c more ih =>
    rw [List.flatMap_cons, pieceBytes?_charPieces, ih]
    simp

/-- The pieces of a text make the text. -/
theorem pieceText?_textPieces (text : String) : pieceText? (textPieces text) = some text := by
  rw [pieceText?, textPieces, pieceBytes?_flatMap_charPieces, Option.bind_some]
  exact Utf8.toString?_encode text

end DeviceGateway.Json
