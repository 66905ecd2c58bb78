/-
# Reading percent encoding back

Percent encoding loses nothing: whatever a text holds, reading what was written gives the text back.
What is written consists of the characters that are kept and of percent signs, so that none of the marks
that cut a property bag occurs in it.
-/

import DeviceGateway.Proofs.Text.Utf8
import DeviceGateway.Text.Percent

namespace DeviceGateway.Percent

/-! ## Bytes that are kept -/

theorem isKept_iff (b : UInt8) : isKept b = true ↔
    (0x30 ≤ b.toNat ∧ b.toNat ≤ 0x39) ∨ (0x41 ≤ b.toNat ∧ b.toNat ≤ 0x5A) ∨
      (0x61 ≤ b.toNat ∧ b.toNat ≤ 0x7A) ∨ b.toNat = 0x24 ∨ b.toNat = 0x2E ∨ b.toNat = 0x2D ∨
      b.toNat = 0x5F ∨ b.toNat = 0x7E := by
  simp [isKept, UInt8.le_iff_toNat_le, ← UInt8.toNat_inj, or_assoc]

/-- A byte that is kept is ASCII and no percent sign. -/
theorem toNat_of_isKept {b : UInt8} (kept : isKept b = true) : b.toNat < 0x80 ∧ b.toNat ≠ 0x25 := by
  rw [isKept_iff] at kept
  omega

theorem toNat_ofNat_ascii {n : Nat} (small : n < 0x80) : (Char.ofNat n).toNat = n := by
  have valid : n.isValidChar := .inl (by omega)
  rw [Char.ofNat, dif_pos valid]
  rfl

/-- An ASCII character is one byte. -/
theorem utf8EncodeChar_ascii {c : Char} (small : c.toNat < 0x80) :
    String.utf8EncodeChar c = [UInt8.ofNat c.toNat] := by
  simp only [String.utf8EncodeChar, Char.toNat] at small ⊢
  rw [if_pos (by omega)]

/-- A hexadecimal digit is kept, and reading it gives its value. -/
theorem hexDigit_written : ∀ n : Fin 16,
    (hexDigit n).toNat < 0x80 ∧ isKept (UInt8.ofNat (hexDigit n).toNat) = true ∧
      hexValue? (UInt8.ofNat (hexDigit n).toNat) = some n.val := by
  decide

/-! ## What is written -/

/-- Whether a character may occur in a written text. -/
def IsWritten (c : Char) : Prop :=
  c.toNat < 0x80 ∧ (c = '%' ∨ isKept (UInt8.ofNat c.toNat) = true)

theorem isWritten_hexDigit {n : Nat} (small : n < 16) : IsWritten (hexDigit n) :=
  have written := hexDigit_written ⟨n, small⟩
  ⟨written.1, .inr written.2.1⟩

theorem isWritten_of_mem_encodeByte {b : UInt8} {c : Char} (member : c ∈ encodeByte b) :
    IsWritten c := by
  have size := b.toNat_lt
  unfold encodeByte at member
  split at member
  case isTrue kept =>
    have ascii := (toNat_of_isKept kept).1
    obtain rfl := List.mem_singleton.1 member
    rw [IsWritten, toNat_ofNat_ascii ascii, UInt8.ofNat_toNat]
    exact ⟨ascii, .inr kept⟩
  case isFalse =>
    simp only [List.mem_cons, List.not_mem_nil, or_false] at member
    rcases member with rfl | rfl | rfl
    · exact ⟨by decide, .inl rfl⟩
    · exact isWritten_hexDigit (by omega)
    · exact isWritten_hexDigit (by omega)

theorem isWritten_of_mem_encode {text : String} {c : Char} (member : c ∈ encode text) :
    IsWritten c := by
  obtain ⟨b, _, inside⟩ := List.mem_flatMap.1 member
  exact isWritten_of_mem_encodeByte inside

theorem not_mem_encode {c : Char} (other : c ≠ '%')
    (dropped : isKept (UInt8.ofNat c.toNat) = false) (text : String) : c ∉ encode text := by
  intro member
  rcases (isWritten_of_mem_encode member).2 with same | kept
  · exact other same
  · rw [dropped] at kept
    cases kept

/-! ## Reading it back -/

/-- A byte that is no percent sign stands for itself. -/
theorem decodeBytes_cons {b : UInt8} (plain : b ≠ 0x25) (rest : Bytes) :
    decodeBytes (b :: rest) = b :: decodeBytes rest := by
  rw [decodeBytes.eq_def]
  split
  case h_1 same => exact absurd (List.cons.inj same).1 plain
  case h_2 same =>
    obtain ⟨rfl, rfl⟩ := List.cons.inj same
    rfl
  case h_3 same => cases same

theorem decodeBytes_encodeByte (b : UInt8) (rest : Bytes) :
    decodeBytes (Utf8.encode (encodeByte b) ++ rest) = b :: decodeBytes rest := by
  have size := b.toNat_lt
  unfold encodeByte
  split
  case isTrue kept =>
    obtain ⟨ascii, other⟩ := toNat_of_isKept kept
    have bytes : Utf8.encode [Char.ofNat b.toNat] = [b] := by
      simp [utf8EncodeChar_ascii, toNat_ofNat_ascii ascii, ascii]
    have plain : b ≠ 0x25 := fun same => other (congrArg UInt8.toNat same)
    rw [bytes, List.singleton_append, decodeBytes_cons plain]
  case isFalse =>
    have high := hexDigit_written ⟨b.toNat / 16, by omega⟩
    have low := hexDigit_written ⟨b.toNat % 16, by omega⟩
    have whole : b.toNat / 16 * 16 + b.toNat % 16 = b.toNat := by omega
    have bytes : Utf8.encode ['%', hexDigit (b.toNat / 16), hexDigit (b.toNat % 16)] =
        [0x25, UInt8.ofNat (hexDigit (b.toNat / 16)).toNat,
          UInt8.ofNat (hexDigit (b.toNat % 16)).toNat] := by
      rw [Utf8.encode_cons, Utf8.encode_cons, Utf8.encode_cons, utf8EncodeChar_ascii high.1,
        utf8EncodeChar_ascii low.1]
      rfl
    rw [bytes]
    simp only [List.cons_append, List.nil_append, decodeBytes, high.2.2, low.2.2, whole,
      UInt8.ofNat_toNat]

theorem decodeBytes_encode (bytes rest : Bytes) :
    decodeBytes (Utf8.encode (bytes.flatMap encodeByte) ++ rest) = bytes ++ decodeBytes rest := by
  induction bytes with
  | nil => rfl
  | cons b bytes ih =>
    rw [List.flatMap_cons, Utf8.encode_append, List.append_assoc, decodeBytes_encodeByte, ih,
      List.cons_append]

/-- Reading what was written for a text gives the text. -/
theorem decode_encode (text : String) : decode (encode text) = text := by
  have bytes : decodeBytes (Utf8.encode (encode text)) = Utf8.ofString text := by
    simpa [encode, decodeBytes] using decodeBytes_encode (Utf8.ofString text) []
  rw [decode, bytes, Utf8.toStringLossy_ofString]

end DeviceGateway.Percent
