/-
# Reading UTF-8 back

Both readings give back what was written.  The step that they share takes the first character of a
well-formed text apart as it was put together; the range of the second byte, which keeps overlong forms
and surrogates out, lets every character through.
-/

import DeviceGateway.Text.Utf8
import Mathlib.Data.List.Basic

namespace DeviceGateway.Utf8

theorem toNat_ofNat {n : Nat} (small : n < 256) : (UInt8.ofNat n).toNat = n := by
  simp [Nat.mod_eq_of_lt small]

/-- A continuation byte in its range adds its six bits. -/
theorem continuation_cons {count low high bits : Nat} (code : Nat) (small : bits < 64)
    (above : low ≤ bits + 128) (below : bits + 128 ≤ high) (rest : Bytes) :
    continuation (count + 1) low high code (UInt8.ofNat (bits + 128) :: rest) =
      continuation count 0x80 0xBF (code * 64 + bits) rest := by
  have value : (UInt8.ofNat (bits + 128)).toNat = bits + 128 := toNat_ofNat (by omega)
  have low6 : (bits + 128) % 64 = bits := by omega
  rw [continuation, value, if_pos ⟨above, below⟩, low6]

/-- The same for a continuation byte that is not the first. -/
theorem continuation_cons' {count bits : Nat} (code : Nat) (small : bits < 64) (rest : Bytes) :
    continuation (count + 1) 0x80 0xBF code (UInt8.ofNat (bits + 128) :: rest) =
      continuation count 0x80 0xBF (code * 64 + bits) rest :=
  continuation_cons code small (by omega) (by omega) rest

/-- Code points that are characters. -/
theorem toNat_valid (c : Char) : c.toNat < 0xD800 ∨ 0xDFFF < c.toNat ∧ c.toNat < 0x110000 :=
  c.valid

/-- Two bytes make a code point below 0x800. -/
theorem nextCode_two {n : Nat} (above : 0x80 ≤ n) (below : n < 0x800) (rest : Bytes) :
    nextCode (UInt8.ofNat (n / 64 % 32 + 192)) (UInt8.ofNat (n % 64 + 128) :: rest) =
      (some n, rest) := by
  have lead : (UInt8.ofNat (n / 64 % 32 + 192)).toNat = n / 64 + 192 := by
    rw [toNat_ofNat (by omega)]
    omega
  have whole : (n / 64 + 192) % 32 * 64 + n % 64 = n := by omega
  rw [nextCode, lead]
  rw [if_neg (by omega), if_neg (by omega), if_pos (by omega), continuation_cons' _ (by omega),
    whole, continuation]

/-- Three bytes make a code point from 0x800 to 0xFFFF that is no surrogate. -/
theorem nextCode_three {n : Nat} (above : 0x800 ≤ n) (below : n < 0x10000)
    (valid : n < 0xD800 ∨ 0xDFFF < n) (rest : Bytes) :
    nextCode (UInt8.ofNat (n / 4096 % 16 + 224))
        (UInt8.ofNat (n / 64 % 64 + 128) :: UInt8.ofNat (n % 64 + 128) :: rest) =
      (some n, rest) := by
  have lead : (UInt8.ofNat (n / 4096 % 16 + 224)).toNat = n / 4096 + 224 := by
    rw [toNat_ofNat (by omega)]
    omega
  have whole : (n / 4096 * 64 + n / 64 % 64) * 64 + n % 64 = n := by omega
  rw [nextCode, lead]
  rw [if_neg (by omega), if_neg (by omega), if_neg (by omega)]
  -- The first lead byte keeps overlong forms out, and the one in the middle keeps surrogates out.
  by_cases first : n / 4096 = 0
  · rw [first] at whole
    rw [if_pos (by omega), continuation_cons _ (by omega) (by omega) (by omega),
      continuation_cons' _ (by omega), whole, continuation]
  · rw [if_neg (by omega)]
    by_cases middle : n / 4096 = 13
    · rw [middle] at whole
      rw [if_pos (by omega), continuation_cons _ (by omega) (by omega) (by omega),
        continuation_cons' _ (by omega), whole, continuation]
    · have bits : (n / 4096 + 224) % 16 = n / 4096 := by omega
      rw [if_neg (by omega), if_pos (by omega), bits, continuation_cons' _ (by omega),
        continuation_cons' _ (by omega), whole, continuation]

/-- Four bytes make a code point from 0x10000 on. -/
theorem nextCode_four {n : Nat} (above : 0x10000 ≤ n) (below : n < 0x110000) (rest : Bytes) :
    nextCode (UInt8.ofNat (n / 262144 % 8 + 240))
        (UInt8.ofNat (n / 4096 % 64 + 128) :: UInt8.ofNat (n / 64 % 64 + 128) ::
          UInt8.ofNat (n % 64 + 128) :: rest) =
      (some n, rest) := by
  have lead : (UInt8.ofNat (n / 262144 % 8 + 240)).toNat = n / 262144 + 240 := by
    rw [toNat_ofNat (by omega)]
    omega
  have whole : ((n / 262144 * 64 + n / 4096 % 64) * 64 + n / 64 % 64) * 64 + n % 64 = n := by omega
  rw [nextCode, lead]
  rw [if_neg (by omega), if_neg (by omega), if_neg (by omega), if_neg (by omega), if_neg (by omega),
    if_neg (by omega)]
  -- The first lead byte keeps overlong forms out, the last one what is beyond the code points.
  by_cases first : n / 262144 = 0
  · rw [first] at whole
    rw [if_pos (by omega), continuation_cons _ (by omega) (by omega) (by omega),
      continuation_cons' _ (by omega), continuation_cons' _ (by omega), whole, continuation]
  · rw [if_neg (by omega)]
    by_cases last : n / 262144 = 4
    · rw [last] at whole
      rw [if_neg (by omega), if_pos (by omega), continuation_cons _ (by omega) (by omega) (by omega),
        continuation_cons' _ (by omega), continuation_cons' _ (by omega), whole, continuation]
    · have bits : (n / 262144 + 240) % 8 = n / 262144 := by omega
      rw [if_pos (by omega), bits, continuation_cons' _ (by omega), continuation_cons' _ (by omega),
        continuation_cons' _ (by omega), whole, continuation]

/-- The first step of reading what was written for a character gives the character. -/
theorem nextCode_utf8EncodeChar (c : Char) (rest : Bytes) :
    ∃ lead tail, String.utf8EncodeChar c = lead :: tail ∧
      nextCode lead (tail ++ rest) = (some c.toNat, rest) := by
  have valid := toNat_valid c
  simp only [String.utf8EncodeChar, Char.toNat] at valid ⊢
  generalize c.val.toNat = n at valid ⊢
  split
  case isTrue one =>
    refine ⟨_, _, rfl, ?_⟩
    rw [nextCode, toNat_ofNat (by omega)]
    simp only [List.nil_append]
    rw [if_pos (by omega)]
  case isFalse =>
    split
    case isTrue two => exact ⟨_, _, rfl, nextCode_two (by omega) (by omega) rest⟩
    case isFalse =>
      split
      case isTrue three =>
        exact ⟨_, _, rfl, nextCode_three (by omega) (by omega) (by omega) rest⟩
      case isFalse four => exact ⟨_, _, rfl, nextCode_four (by omega) (by omega) rest⟩

theorem decodeLossyAfter_cons (before : List Char) (c : Char) (rest : Bytes) :
    decodeLossyAfter before (String.utf8EncodeChar c ++ rest) = decodeLossyAfter (c :: before) rest := by
  obtain ⟨lead, tail, bytes, read⟩ := nextCode_utf8EncodeChar c rest
  rw [bytes, List.cons_append, decodeLossyAfter]
  split
  case h_1 code after step =>
    obtain ⟨same, rfl⟩ := Prod.mk.inj (step.symm.trans read)
    obtain rfl := Option.some.inj same
    simp only [Char.ofNat_toNat]
  case h_2 after step =>
    obtain ⟨impossible, _⟩ := Prod.mk.inj (step.symm.trans read)
    cases impossible

theorem decodeLossyAfter_encode (before text : List Char) :
    decodeLossyAfter before (encode text) = before.reverse ++ text := by
  induction text generalizing before with
  | nil => simp [decodeLossyAfter]
  | cons c rest ih => rw [encode_cons, decodeLossyAfter_cons, ih, List.reverse_cons, List.append_assoc, List.singleton_append]

/-- Reading the bytes of a text leniently gives the text. -/
theorem toStringLossy_ofString (text : String) : toStringLossy (ofString text) = text := by
  rw [toStringLossy, ofString, decodeLossy, decodeLossyAfter_encode]
  simp

theorem decodeAfter?_cons (before : List Char) (c : Char) (rest : Bytes) :
    decodeAfter? before (String.utf8EncodeChar c ++ rest) = decodeAfter? (c :: before) rest := by
  obtain ⟨lead, tail, bytes, read⟩ := nextCode_utf8EncodeChar c rest
  rw [bytes, List.cons_append, decodeAfter?]
  split
  case h_1 code after step =>
    obtain ⟨same, rfl⟩ := Prod.mk.inj (step.symm.trans read)
    obtain rfl := Option.some.inj same
    simp only [Char.ofNat_toNat]
  case h_2 after step =>
    obtain ⟨impossible, _⟩ := Prod.mk.inj (step.symm.trans read)
    cases impossible

theorem decodeAfter?_encode (before text : List Char) :
    decodeAfter? before (encode text) = some (before.reverse ++ text) := by
  induction text generalizing before with
  | nil => simp [decodeAfter?]
  | cons c rest ih => rw [encode_cons, decodeAfter?_cons, ih, List.reverse_cons, List.append_assoc, List.singleton_append]

@[simp]
theorem decode?_encode (text : List Char) : decode? (encode text) = some text :=
  decodeAfter?_encode [] text

/-- Reading the bytes of a text strictly gives the text. -/
@[simp]
theorem toString?_encode (text : String) : toString? (encode text.toList) = some text := by
  simp [toString?]

/-! ## The bytes of a character -/

theorem utf8EncodeChar_of_lt {c : Char} (ascii : c.toNat < 0x80) :
    String.utf8EncodeChar c = [UInt8.ofNat c.toNat] := by
  rw [String.utf8EncodeChar]
  exact if_pos (Nat.le_of_lt_succ ascii)

/-- The bytes of a character that is not of ASCII are no bytes of ASCII. -/
theorem le_of_mem_utf8EncodeChar {c : Char} (above : 0x80 ≤ c.toNat) {b : UInt8}
    (member : b ∈ String.utf8EncodeChar c) : 0x80 ≤ b.toNat := by
  have valid := toNat_valid c
  simp only [String.utf8EncodeChar, Char.toNat] at valid above member
  generalize c.val.toNat = n at valid above member
  have high : ∀ m, 0x80 ≤ m → m < 256 → 0x80 ≤ (UInt8.ofNat m).toNat := fun m low small => by
    rw [toNat_ofNat small]
    exact low
  rw [if_neg (by omega)] at member
  split at member
  case isTrue two =>
    simp only [List.mem_cons, List.not_mem_nil, or_false] at member
    rcases member with rfl | rfl <;> exact high _ (by omega) (by omega)
  case isFalse =>
    split at member
    case isTrue three =>
      simp only [List.mem_cons, List.not_mem_nil, or_false] at member
      rcases member with rfl | rfl | rfl <;> exact high _ (by omega) (by omega)
    case isFalse four =>
      simp only [List.mem_cons, List.not_mem_nil, or_false] at member
      rcases member with rfl | rfl | rfl | rfl <;> exact high _ (by omega) (by omega)

end DeviceGateway.Utf8
