/-
# Whole numbers of JSON read back

The text of a whole number is its digits, with a minus sign in front of a negative one.  Where nothing
follows that could belong to the number, the digits are read as they stand, and their value is the
number again as long as it fits sixty-four bits.
-/

import DeviceGateway.Json.Printer
import DeviceGateway.Json.Reader
import DeviceGateway.Proofs.Text.Numeral
import DeviceGateway.Proofs.Text.Utf8
import Mathlib.Data.List.TakeWhile

namespace DeviceGateway.Json

open DeviceGateway.Numeral (AllDigits)
open Utf8 (encode)

/-- What may follow a value: nothing, a comma, a bracket or a brace. -/
def Ends (rest : Bytes) : Prop :=
  ∀ b more, rest = b :: more → b = 0x2C ∨ b = 0x5D ∨ b = 0x7D

namespace Reader

theorem encode_digits {text : List Char} (decimal : AllDigits text) : encode text = text.map ascii := by
  induction text with
  | nil => rfl
  | cons c more ih =>
    have bounds := (DeviceGateway.Numeral.isDigit_iff c).1 (decimal c List.mem_cons_self)
    rw [Utf8.encode_cons, Utf8.utf8EncodeChar_of_lt (by omega),
      ih fun d member => decimal d (List.mem_cons_of_mem _ member)]
    rfl

theorem decimalDigit?_ascii {c : Char} (digit : c.isDigit = true) :
    decimalDigit? (ascii c) = some (c.toNat - '0'.toNat) := by
  have bounds := (DeviceGateway.Numeral.isDigit_iff c).1 digit
  have value : (ascii c).toNat = c.toNat := Utf8.toNat_ofNat (by omega)
  have low : 0x30 ≤ ascii c := UInt8.le_iff_toNat_le.2 (by rw [value]; exact bounds.1)
  have high : ascii c ≤ 0x39 := UInt8.le_iff_toNat_le.2 (by rw [value]; exact bounds.2)
  rw [decimalDigit?, if_pos ⟨low, high⟩, value]
  rfl

/-- The values of digits. -/
def values (text : List Char) : List Nat := text.map fun c => c.toNat - '0'.toNat

theorem digits_append {text : List Char} (decimal : AllDigits text) {rest : Bytes} (ends : Ends rest) :
    digits (encode text ++ rest) = (values text, rest) := by
  have inside : ∀ b ∈ text.map ascii, (decimalDigit? b).isSome = true := by
    intro b member
    obtain ⟨c, isIn, rfl⟩ := List.mem_map.1 member
    rw [decimalDigit?_ascii (decimal c isIn)]
    rfl
  have taken : rest.takeWhile (fun b => (decimalDigit? b).isSome) = [] ∧
      rest.dropWhile (fun b => (decimalDigit? b).isSome) = rest := by
    cases rest with
    | nil => exact ⟨rfl, rfl⟩
    | cons b more => rcases ends b more rfl with rfl | rfl | rfl <;> exact ⟨rfl, rfl⟩
  rw [digits, encode_digits decimal, List.takeWhile_append_of_pos inside,
    List.dropWhile_append_of_pos inside, taken.1, taken.2, List.append_nil, List.filterMap_map,
    values]
  congr 1
  rw [← List.filterMap_eq_map]
  exact List.filterMap_congr fun c member => decimalDigit?_ascii (decimal c member)

/-- A number of several digits does not begin with zero. -/
theorem toDigits_head {n : Nat} {c d : Char} {more : List Char}
    (written : Nat.toDigits 10 n = c :: d :: more) : c ≠ '0' := by
  rintro rfl
  have decimal := DeviceGateway.Numeral.allDigits_toDigits n
  have value := Nat.ofDigitChars_ten_toDigits (n := n)
  rw [written] at decimal value
  have rest : DeviceGateway.Numeral.AllDigits (d :: more) :=
    fun e member => decimal e (List.mem_cons_of_mem _ member)
  have below := DeviceGateway.Numeral.value_lt rest
  rw [DeviceGateway.Numeral.value_cons, Nat.sub_self, Nat.zero_mul, Nat.zero_add] at value
  rw [value] at below
  have short := (Nat.length_toDigits_le_iff (by decide) (Nat.succ_pos _)).2 below
  rw [written] at short
  exact Nat.not_succ_le_self _ short

/-- A digit that is no zero has another value than zero. -/
theorem value_ne_zero {c : Char} (digit : c.isDigit = true) (other : c ≠ '0') :
    c.toNat - '0'.toNat ≠ 0 := by
  have bounds := (DeviceGateway.Numeral.isDigit_iff c).1 digit
  have zero : '0'.toNat = 48 := rfl
  intro same
  exact other (Char.toNat_inj.1 (by omega))

theorem whole?_toDigits (n : Nat) {rest : Bytes} (ends : Ends rest) :
    whole? (encode (Nat.toDigits 10 n) ++ rest) = some (values (Nat.toDigits 10 n), rest) := by
  have decimal := DeviceGateway.Numeral.allDigits_toDigits n
  rw [whole?, digits_append decimal ends]
  cases written : Nat.toDigits 10 n with
  | nil => exact absurd written Nat.toDigits_ne_nil
  | cons c more =>
    cases more with
    | nil =>
      simp only [values, List.map_cons, List.map_nil]
      cases c.toNat - '0'.toNat <;> rfl
    | cons d more =>
      have other := value_ne_zero (decimal c (by rw [written]; exact List.mem_cons_self))
        (toDigits_head written)
      obtain ⟨less, isSucc⟩ := Nat.exists_eq_succ_of_ne_zero other
      simp only [values, List.map_cons, isSucc]

theorem fraction?_of_ends {rest : Bytes} (ends : Ends rest) : fraction? rest = some ([], rest) := by
  cases rest with
  | nil => rfl
  | cons b more => rcases ends b more rfl with rfl | rfl | rfl <;> rfl

theorem exponent?_of_ends {rest : Bytes} (ends : Ends rest) : exponent? rest = some (none, rest) := by
  cases rest with
  | nil => rfl
  | cons b more => rcases ends b more rfl with rfl | rfl | rfl <;> rfl

/-- The numeral of the digits of a number. -/
def wholeNumeral (negative : Bool) (n : Nat) : Numeral := ⟨negative, values (Nat.toDigits 10 n), [], none⟩

theorem numeral?_negative (n : Nat) {rest : Bytes} (ends : Ends rest) :
    numeral? (0x2D :: (encode (Nat.toDigits 10 n) ++ rest)) = some (wholeNumeral true n, rest) := by
  simp only [numeral?, whole?_toDigits n ends, fraction?_of_ends ends, exponent?_of_ends ends]
  rfl

/-- The first byte of a number without sign is a digit. -/
theorem encode_toDigits (n : Nat) : ∃ c more, c.isDigit = true ∧
    encode (Nat.toDigits 10 n) = ascii c :: more := by
  have decimal := DeviceGateway.Numeral.allDigits_toDigits n
  rw [encode_digits decimal]
  cases written : Nat.toDigits 10 n with
  | nil => exact absurd written Nat.toDigits_ne_nil
  | cons c more => exact ⟨c, _, decimal c (by rw [written]; exact List.mem_cons_self), rfl⟩

theorem numeral?_positive (n : Nat) {rest : Bytes} (ends : Ends rest) :
    numeral? (encode (Nat.toDigits 10 n) ++ rest) = some (wholeNumeral false n, rest) := by
  obtain ⟨c, more, digit, begins⟩ := encode_toDigits n
  have noSign : ascii c ≠ 0x2D := by
    intro same
    have read := decimalDigit?_ascii digit
    rw [same] at read
    cases read
  have whole := whole?_toDigits n ends
  rw [begins, List.cons_append] at whole ⊢
  unfold numeral?
  split
  case h_1 negative unsigned cut =>
    split at cut
    case h_1 same => exact absurd (List.cons.inj same).1 noSign
    case h_2 =>
      obtain ⟨rfl, rfl⟩ := Prod.mk.inj cut
      simp only [whole, fraction?_of_ends ends, exponent?_of_ends ends]
      rfl

end Reader

namespace Number

open Reader (values wholeNumeral)

/-- Digits whose value fits are gathered to it. -/
theorem gatherWhole_values {text : List Char} {significand : Nat}
    (fits : Nat.ofDigitChars 10 text significand ≤ greatestSignificand) :
    gatherWhole significand (values text) = (Nat.ofDigitChars 10 text significand, 0) := by
  induction text generalizing significand with
  | nil => rfl
  | cons c more ih =>
    rw [Nat.ofDigitChars_cons] at fits ⊢
    have grown : 10 * significand + (c.toNat - '0'.toNat) ≤
        Nat.ofDigitChars 10 more (10 * significand + (c.toNat - '0'.toNat)) := by
      rw [Nat.ofDigitChars_eq_ofDigitChars_zero]
      exact Nat.le_add_right_of_le (Nat.le_mul_of_pos_left _ (Nat.pow_pos (by decide)))
    have partly := Nat.le_trans grown fits
    rw [Nat.mul_comm 10] at partly fits ⊢
    rw [values, List.map_cons, gatherWhole, if_pos partly]
    exact ih fits

theorem gatherWhole_toDigits {n : Nat} (fits : n ≤ Word.greatest64) :
    gatherWhole 0 (values (Nat.toDigits 10 n)) = (n, 0) := by
  have value := Nat.ofDigitChars_ten_toDigits (n := n)
  rw [gatherWhole_values (by rw [value]; exact fits), value]

theorem of?_positive {n : Nat} (fits : n ≤ Word.greatest64) :
    of? (wholeNumeral false n) = some (.integer n) := by
  simp [of?, wholeNumeral, gatherWhole_toDigits fits]

theorem of?_negative {n : Nat} (positive : 0 < n) (fits : n ≤ Word.half64) :
    of? (wholeNumeral true n) = some (.integer (-(n : Int))) := by
  have whole : n ≤ Word.greatest64 := Nat.le_trans fits (by decide)
  simp [of?, wholeNumeral, gatherWhole_toDigits whole, positive, fits]

/-- The whole numbers that JSON keeps exact. -/
def Fits (value : Int) : Prop := -(Word.half64 : Int) ≤ value ∧ value ≤ Word.greatest64

theorem print_ofNat (n : Nat) : (Number.integer (Int.ofNat n)).print = Nat.toDigits 10 n := by
  simp [Number.print, DeviceGateway.Numeral.ofInt, DeviceGateway.Numeral.ofNat]

theorem print_negSucc (n : Nat) :
    (Number.integer (Int.negSucc n)).print = '-' :: Nat.toDigits 10 (n + 1) := by
  simp [Number.print, DeviceGateway.Numeral.ofInt, DeviceGateway.Numeral.ofNat]

/-- A whole number that fits is read from its text, whatever value or bracket comes next. -/
theorem numeral?_print {value : Int} (fits : Fits value) :
    ∃ numeral, of? numeral = some (.integer value) ∧ ∀ rest, Ends rest →
      Reader.numeral? (encode (Number.integer value).print ++ rest) = some (numeral, rest) := by
  cases value with
  | ofNat n =>
    have small : n ≤ Word.greatest64 := Int.ofNat_le.1 fits.2
    refine ⟨_, of?_positive small, ?_⟩
    intro rest ends
    rw [print_ofNat]
    exact Reader.numeral?_positive n ends
  | negSucc n =>
    have small : n + 1 ≤ Word.half64 := by
      have := fits.1
      omega
    refine ⟨_, of?_negative (Nat.succ_pos n) small, ?_⟩
    intro rest ends
    rw [print_negSucc]
    exact Reader.numeral?_negative (n + 1) ends

/-- The text of a whole number begins with a digit or a minus sign. -/
theorem print_head (value : Int) : ∃ b more, encode (Number.integer value).print = b :: more ∧
    (b = 0x2D ∨ (Reader.decimalDigit? b).isSome = true) := by
  cases value with
  | ofNat n =>
    obtain ⟨c, more, digit, begins⟩ := Reader.encode_toDigits n
    exact ⟨Reader.ascii c, more, by rw [print_ofNat, begins],
      .inr (Option.isSome_of_eq_some (Reader.decimalDigit?_ascii digit))⟩
  | negSucc n =>
    exact ⟨0x2D, encode (Nat.toDigits 10 (n + 1)), by rw [print_negSucc]; rfl, .inl rfl⟩

end Number

end DeviceGateway.Json
