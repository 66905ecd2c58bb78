/-
# Numerals read back

A number that is written with zeros in front up to a width is read back from just as many digits, and
every sequence of so many digits is the written form of one number.  What carries both is that digits of
one length and one value are the same digits.  A number that is written without zeros in front is read back
as well, with its sign, within the bounds of the field that it is read for.
-/

import DeviceGateway.Text.Numeral
import Mathlib.Data.List.Basic
import Mathlib.Tactic.Ring

namespace DeviceGateway

namespace Numeral

/-- The characters of a text are decimal digits. -/
abbrev AllDigits (text : List Char) : Prop := ∀ c ∈ text, c.isDigit = true

theorem isDigit_iff (c : Char) : c.isDigit = true ↔ 48 ≤ c.toNat ∧ c.toNat ≤ 57 := by
  simp only [Char.isDigit, Bool.and_eq_true, decide_eq_true_eq, ge_iff_le]
  exact Iff.rfl

theorem digit?_eq_some_iff {c : Char} {d : Nat} :
    digit? c = some d ↔ c.isDigit = true ∧ c.toNat - '0'.toNat = d := by
  have bounds : ('0' ≤ c ∧ c ≤ '9') ↔ c.isDigit = true := by
    rw [isDigit_iff]
    exact Iff.rfl
  unfold digit?
  split
  case isTrue within => simp [bounds.1 within]
  case isFalse outside => simp [mt bounds.2 outside]

theorem digitsFrom_eq_some_iff {value n : Nat} {text : List Char} :
    digitsFrom value text = some n ↔ AllDigits text ∧ Nat.ofDigitChars 10 text value = n := by
  induction text generalizing value with
  | nil => simp [digitsFrom, AllDigits]
  | cons c rest ih =>
    simp only [digitsFrom, AllDigits, List.forall_mem_cons, Nat.ofDigitChars_cons]
    split
    case h_1 d found =>
      obtain ⟨digit, rfl⟩ := digit?_eq_some_iff.1 found
      rw [ih, Nat.mul_comm 10 value]
      simp [digit]
    case h_2 missing =>
      have other : ¬ c.isDigit = true := fun digit => by
        rw [digit?_eq_some_iff.2 ⟨digit, rfl⟩] at missing
        cases missing
      simp [other]

theorem digits?_eq_some_iff {n : Nat} {text : List Char} :
    digits? text = some n ↔ text ≠ [] ∧ AllDigits text ∧ Nat.ofDigitChars 10 text 0 = n := by
  cases text with
  | nil => simp [digits?]
  | cons c rest => simp [digits?, digitsFrom_eq_some_iff]

/-! ## Digits of one length -/

theorem value_cons (c : Char) (rest : List Char) :
    Nat.ofDigitChars 10 (c :: rest) 0 =
      (c.toNat - '0'.toNat) * 10 ^ rest.length + Nat.ofDigitChars 10 rest 0 := by
  rw [Nat.ofDigitChars_cons, Nat.ofDigitChars_eq_ofDigitChars_zero]
  ring

theorem value_lt {text : List Char} (digits : AllDigits text) :
    Nat.ofDigitChars 10 text 0 < 10 ^ text.length := by
  induction text with
  | nil => simp
  | cons c rest ih =>
    have bounds := (isDigit_iff c).1 (digits c List.mem_cons_self)
    have zero : '0'.toNat = 48 := rfl
    have below := ih fun d member => digits d (List.mem_cons_of_mem c member)
    rw [value_cons, List.length_cons, zero]
    calc (c.toNat - 48) * 10 ^ rest.length + Nat.ofDigitChars 10 rest 0
        < (c.toNat - 48) * 10 ^ rest.length + 10 ^ rest.length := by omega
      _ = (c.toNat - 48 + 1) * 10 ^ rest.length := by ring
      _ ≤ 10 * 10 ^ rest.length := Nat.mul_le_mul_right _ (by omega)
      _ = 10 ^ (rest.length + 1) := by ring

theorem eq_and_eq_of_mul_add_eq {unit high low high' low' : Nat} (small : low < unit)
    (small' : low' < unit) (same : high * unit + low = high' * unit + low') :
    high = high' ∧ low = low' := by
  have positive : 0 < unit := by omega
  have quotient : high = high' := by
    calc high = (low + high * unit) / unit := by
          rw [Nat.add_mul_div_right low high positive, Nat.div_eq_of_lt small, Nat.zero_add]
      _ = (low' + high' * unit) / unit := by rw [Nat.add_comm low, same, Nat.add_comm low']
      _ = high' := by
          rw [Nat.add_mul_div_right low' high' positive, Nat.div_eq_of_lt small', Nat.zero_add]
  subst quotient
  exact ⟨rfl, Nat.add_left_cancel same⟩

/-- Digits of one length and one value are the same. -/
theorem eq_of_value_eq {first second : List Char} (digits : AllDigits first)
    (digits' : AllDigits second) (length : first.length = second.length)
    (value : Nat.ofDigitChars 10 first 0 = Nat.ofDigitChars 10 second 0) : first = second := by
  induction first generalizing second with
  | nil => exact (List.length_eq_zero_iff.1 length.symm).symm
  | cons c rest ih =>
    cases second with
    | nil => cases length
    | cons d more =>
      obtain ⟨digit, later⟩ := List.forall_mem_cons.1 digits
      obtain ⟨digit', later'⟩ := List.forall_mem_cons.1 digits'
      have sameLength : rest.length = more.length := Nat.succ.inj length
      have low := value_lt later
      have low' := value_lt later'
      rw [value_cons, value_cons, ← sameLength] at value
      rw [← sameLength] at low'
      obtain ⟨head, tail⟩ := eq_and_eq_of_mul_add_eq low low' value
      have bounds := (isDigit_iff c).1 digit
      have bounds' := (isDigit_iff d).1 digit'
      have zero : '0'.toNat = 48 := rfl
      have same : c = d := Char.toNat_inj.1 (by omega)
      rw [same, ih later later' sameLength tail]

/-! ## Zeros in front -/

theorem toList_padded (width n : Nat) : (padded width n).toList =
    List.replicate (width - (Nat.toDigits 10 n).length) '0' ++ Nat.toDigits 10 n := by
  simp [padded, ofNat]

theorem allDigits_toDigits (n : Nat) : AllDigits (Nat.toDigits 10 n) :=
  fun _ member => Nat.isDigit_of_mem_toDigits (by decide) (by decide) member

theorem allDigits_padded (width n : Nat) : AllDigits (padded width n).toList := by
  intro c member
  rw [toList_padded, List.mem_append] at member
  rcases member with zero | digit
  · rw [List.eq_of_mem_replicate zero]
    rfl
  · exact allDigits_toDigits n c digit

theorem padded_ne_nil (width n : Nat) : (padded width n).toList ≠ [] := by
  rw [toList_padded]
  exact List.append_ne_nil_of_right_ne_nil _ Nat.toDigits_ne_nil

@[simp]
theorem value_padded (width n : Nat) : Nat.ofDigitChars 10 (padded width n).toList 0 = n := by
  rw [toList_padded, Nat.ofDigitChars_append, Nat.ofDigitChars_replicate_zero,
    Nat.ofDigitChars_eq_ofDigitChars_zero, Nat.ofDigitChars_ten_toDigits]
  simp

theorem length_padded {width n : Nat} (positive : 0 < width) (small : n < 10 ^ width) :
    (padded width n).toList.length = width := by
  have fits := (Nat.length_toDigits_le_iff (by decide) positive).2 small
  rw [toList_padded, List.length_append, List.length_replicate]
  omega

/-- The digits of a width are the written form of their value. -/
theorem padded_value {text : List Char} (digits : AllDigits text) (filled : text ≠ []) :
    (padded text.length (Nat.ofDigitChars 10 text 0)).toList = text := by
  have positive : 0 < text.length := List.length_pos_iff.2 filled
  apply eq_of_value_eq (allDigits_padded _ _) digits (length_padded positive (value_lt digits))
  exact value_padded ..

/-! ## Numerals without zeros in front -/

theorem digits?_ofNat (n : Nat) : digits? (ofNat n).toList = some n := by
  have digits : (ofNat n).toList = Nat.toDigits 10 n := by simp [ofNat]
  rw [digits, digits?_eq_some_iff]
  exact ⟨Nat.toDigits_ne_nil, allDigits_toDigits n, Nat.ofDigitChars_ten_toDigits⟩

theorem allDigits_ofNat (n : Nat) : AllDigits (ofNat n).toList :=
  (digits?_eq_some_iff.1 (digits?_ofNat n)).2.1

/-- What is not a digit does not stand at the start of a written number. -/
theorem toList_ofNat_ne_cons {n : Nat} {sign : Char} (other : sign.isDigit = false) (rest : List Char) :
    (ofNat n).toList ≠ sign :: rest := by
  intro same
  have digit := allDigits_ofNat n sign (same ▸ List.mem_cons_self)
  rw [other] at digit
  cases digit

/-- A number within the bounds of a field is read back. -/
theorem natural?_ofNat {greatest n : Nat} (fits : n ≤ greatest) :
    natural? greatest (ofNat n).toList = some n := by
  unfold natural?
  split
  case h_1 rest signed => exact absurd signed (toList_ofNat_ne_cons (by decide) rest)
  case h_2 =>
    simp only [digits?_ofNat, Option.filter_some, decide_eq_true fits, if_true]

/-- A number that fits sixty-four bits is read back with its sign. -/
theorem integer?_ofInt {value : Int} (fits : Word.fitsSigned value = true) :
    integer? (ofInt value).toList = some value := by
  obtain ⟨low, high⟩ := (Word.fitsSigned_iff value).1 fits
  cases value with
  | ofNat n =>
    rw [ofInt]
    unfold integer?
    split
    case h_1 rest signed => exact absurd signed (toList_ofNat_ne_cons (by decide) rest)
    case h_2 =>
      have bounded : n ≤ Word.half64 - 1 := by
        rw [Int.ofNat_eq_natCast, Int.ofNat_lt] at high
        exact Nat.le_sub_one_of_lt high
      rw [natural?_ofNat bounded]
      rfl
  | negSucc n =>
    have bounded : n + 1 ≤ Word.half64 := by omega
    have signed : (ofInt (.negSucc n)).toList = '-' :: (ofNat (n + 1)).toList := by simp [ofInt]
    rw [signed, integer?, digits?_ofNat]
    simp only [if_pos bounded]
    rfl

end Numeral

end DeviceGateway
