/-
# The forms of an identifier

An identifier has four forms, and reading accepts these forms and nothing else, with letters of either
case: a text that misses a form by one character is no identifier.  All that reading ignores is the case
of letters, so that a text is a form of one identifier at most.

The form with hyphens is the one that is written.  The texts of this form are told by their groups and
digits alone, and each of them is the written form of an identifier.
-/

import DeviceGateway.Proofs.Text.Split
import DeviceGateway.Uuid

namespace DeviceGateway

/-! ## Digits of either case -/

namespace Numeral

open Json (hexDigit)

theorem toLower_of_le {c : Char} (above : 128 ≤ c.toNat) : c.toLower = c := by
  apply dif_neg
  rintro ⟨_, below⟩
  have small : c.toNat ≤ 90 := below
  omega

theorem hexDigit?_of_le {c : Char} (above : 128 ≤ c.toNat) : hexDigit? c = none := by
  have beyond : ∀ d : Char, d.toNat < 128 → ¬ c ≤ d := fun d small below => by
    have : c.toNat ≤ d.toNat := below
    omega
  simp [hexDigit?, beyond]

/-- What holds of the ASCII characters and of all characters beyond them holds of every character. -/
theorem forall_char {Holds : Char → Prop} (ascii : ∀ k < 128, Holds (Char.ofNat k))
    (beyond : ∀ c : Char, 128 ≤ c.toNat → Holds c) (c : Char) : Holds c := by
  by_cases small : c.toNat < 128
  · rw [← Char.ofNat_toNat c]
    exact ascii _ small
  · exact beyond c (Nat.le_of_not_lt small)

/-- The value of a digit does not depend on its case. -/
theorem hexDigit?_toLower : ∀ c : Char, hexDigit? c.toLower = hexDigit? c := by
  apply forall_char
  case ascii => decide
  case beyond => exact fun c above => by rw [toLower_of_le above]

theorem toLower_of_hexDigit? : ∀ (c : Char) (n : Nat), hexDigit? c = some n →
    n < 16 ∧ c.toLower = hexDigit n := by
  apply forall_char
  case ascii =>
    have each : ∀ k < 128, ∀ n ∈ hexDigit? (Char.ofNat k),
        n < 16 ∧ (Char.ofNat k).toLower = hexDigit n := by decide
    exact fun k small n => each k small n
  case beyond =>
    intro c above n value
    rw [hexDigit?_of_le above] at value
    cases value

theorem hexDigit?_hexDigit : ∀ n < 16, hexDigit? (hexDigit n) = some n := by
  decide

theorem hexDigit?_eq_some_iff {c : Char} {n : Nat} :
    hexDigit? c = some n ↔ n < 16 ∧ c.toLower = hexDigit n := by
  constructor
  · exact toLower_of_hexDigit? c n
  · rintro ⟨small, same⟩
    rw [← hexDigit?_toLower, same, hexDigit?_hexDigit n small]

/-- A mark between digits has no case. -/
theorem toLower_eq_mark_iff {mark : Char} (listed : mark ∈ ['-', '\x7b', '\x7d']) :
    ∀ c : Char, c.toLower = mark ↔ c = mark := by
  apply forall_char
  case ascii =>
    simp only [List.mem_cons, List.not_mem_nil, or_false] at listed
    rcases listed with rfl | rfl | rfl
    · decide
    · decide
    · decide
  case beyond => exact fun c above => by rw [toLower_of_le above]

end Numeral

namespace Uuid

open Json (hexDigit)
open Numeral (hexDigit? hexDigit?_eq_some_iff toLower_eq_mark_iff)

theorem hexText_cons (b : UInt8) (bytes : Bytes) : hexText (b :: bytes) =
    hexDigit (b.toNat / 16) :: hexDigit (b.toNat % 16) :: hexText bytes := rfl

@[simp]
theorem length_hexText (bytes : Bytes) : (hexText bytes).length = 2 * bytes.length := by
  induction bytes with
  | nil => rfl
  | cons b bytes ih =>
    rw [hexText_cons, List.length_cons, List.length_cons, List.length_cons, ih]
    omega

/-- The halves of a byte that two digits make. -/
theorem toNat_ofDigits {high low : Nat} (small : high < 16) (small' : low < 16) :
    (UInt8.ofNat (high * 16 + low)).toNat / 16 = high ∧
      (UInt8.ofNat (high * 16 + low)).toNat % 16 = low := by
  rw [UInt8.toNat_ofNat_of_lt' (by simp only [UInt8.size]; omega)]
  omega

theorem ofHex?_cons_eq_some_iff {high low : Char} {digits : List Char} {b : UInt8} {bytes : Bytes} :
    ofHex? (high :: low :: digits) = some (b :: bytes) ↔
      hexDigit? high = some (b.toNat / 16) ∧ hexDigit? low = some (b.toNat % 16) ∧
        ofHex? digits = some bytes := by
  rw [ofHex?]
  constructor
  · intro read
    split at read
    case h_1 first second isFirst isSecond =>
      obtain ⟨later, found, same⟩ := Option.map_eq_some_iff.1 read
      obtain ⟨rfl, rfl⟩ := List.cons.inj same
      obtain ⟨quotient, remainder⟩ := toNat_ofDigits (hexDigit?_eq_some_iff.1 isFirst).1
        (hexDigit?_eq_some_iff.1 isSecond).1
      rw [quotient, remainder]
      exact ⟨isFirst, isSecond, found⟩
    case h_2 => cases read
  · rintro ⟨isFirst, isSecond, found⟩
    have whole : b.toNat / 16 * 16 + b.toNat % 16 = b.toNat := by omega
    simp only [isFirst, isSecond, found, whole, UInt8.ofNat_toNat, Option.map_some]

/-- Digits are read as the bytes that they are the digits of. -/
theorem ofHex?_eq_some_iff {digits : List Char} {bytes : Bytes} :
    ofHex? digits = some bytes ↔ digits.map Char.toLower = hexText bytes := by
  induction bytes generalizing digits with
  | nil =>
    rcases digits with _ | ⟨high, _ | ⟨low, digits⟩⟩
    · simp [ofHex?, hexText]
    · simp [ofHex?, hexText]
    · have filled : ofHex? (high :: low :: digits) ≠ some [] := fun read => by
        rw [ofHex?] at read
        split at read
        case h_1 => simp at read
        case h_2 => cases read
      simp [filled, hexText]
  | cons b bytes ih =>
    have size := b.toNat_lt
    have high16 : b.toNat / 16 < 16 := by omega
    have low16 : b.toNat % 16 < 16 := by omega
    rcases digits with _ | ⟨high, _ | ⟨low, digits⟩⟩
    · simp [ofHex?, hexText_cons]
    · simp [ofHex?, hexText_cons]
    · rw [ofHex?_cons_eq_some_iff, hexDigit?_eq_some_iff, hexDigit?_eq_some_iff, ih, hexText_cons]
      simp [high16, low16]

/-- The hexadecimal digits in lower case. -/
def lowerDigits : List Char := "0123456789abcdef".toList

theorem mem_lowerDigits_iff {c : Char} : c ∈ lowerDigits ↔ ∃ n < 16, hexDigit n = c := by
  have inOrder : lowerDigits = (List.range 16).map hexDigit := by decide
  simp only [inOrder, List.mem_map, List.mem_range]

theorem mem_lowerDigits_of_mem_hexText {bytes : Bytes} {c : Char} (member : c ∈ hexText bytes) :
    c ∈ lowerDigits := by
  obtain ⟨b, _, inside⟩ := List.mem_flatMap.1 member
  have size := b.toNat_lt
  simp only [byteText, List.mem_cons, List.not_mem_nil, or_false] at inside
  rcases inside with rfl | rfl
  · exact mem_lowerDigits_iff.2 ⟨_, by omega, rfl⟩
  · exact mem_lowerDigits_iff.2 ⟨_, by omega, rfl⟩

theorem hyphen_not_mem_hexText (bytes : Bytes) : '-' ∉ hexText bytes := fun member =>
  absurd (mem_lowerDigits_of_mem_hexText member) (by decide)

theorem ofDigits?_eq_some_iff {digits : List Char} {id : Uuid} :
    ofDigits? digits = some id ↔ digits.map Char.toLower = hexText id.bytes := by
  rw [← ofHex?_eq_some_iff, ofDigits?]
  constructor
  · intro read
    split at read
    case h_1 bytes found =>
      obtain ⟨_, same⟩ := Option.dite_none_right_eq_some.1 read
      rw [found, ← Option.some.inj same]
    case h_2 => cases read
  · intro found
    simp only [found, dif_pos id.length_eq]

/-! ## Groups of digits -/

/-- Thirty-two digits in the groups in which they are written. -/
def groups (digits : List Char) : List (List Char) :=
  [digits.take 8, (digits.drop 8).take 4, (digits.drop 12).take 4, (digits.drop 16).take 4,
    digits.drop 20]

/-- The lengths of the groups. -/
def groupLengths : List Nat := [8, 4, 4, 4, 12]

theorem toList_hyphenated (id : Uuid) :
    id.hyphenated.toList = Text.joinWith '-' (groups (hexText id.bytes)) := by
  simp [hyphenated, groups, Text.joinWith]

theorem lengths_groups {digits : List Char} (length : digits.length = 32) :
    (groups digits).map List.length = groupLengths := by
  simp [groups, groupLengths, length]

theorem flatten_groups (digits : List Char) : (groups digits).flatten = digits := by
  have whole : ∀ place size : Nat, (digits.drop place).take size ++ digits.drop (place + size) =
      digits.drop place := fun place size => by
    rw [← List.drop_drop, List.take_append_drop]
  simp only [groups, List.flatten_cons, List.flatten_nil, List.append_nil]
  rw [whole 16 4, whole 12 4, whole 8 4, List.take_append_drop]

/-- Pieces of these lengths are the groups of what they hold together. -/
theorem groups_flatten {pieces : List (List Char)} (lengths : pieces.map List.length = groupLengths) :
    groups pieces.flatten = pieces := by
  obtain ⟨first, _, rfl, eight, lengths⟩ := List.map_eq_cons_iff.1 lengths
  obtain ⟨second, _, rfl, four, lengths⟩ := List.map_eq_cons_iff.1 lengths
  obtain ⟨third, _, rfl, four', lengths⟩ := List.map_eq_cons_iff.1 lengths
  obtain ⟨fourth, _, rfl, four'', lengths⟩ := List.map_eq_cons_iff.1 lengths
  obtain ⟨last, _, rfl, twelve, lengths⟩ := List.map_eq_cons_iff.1 lengths
  obtain rfl := List.map_eq_nil_iff.1 lengths
  simp [groups, List.drop_append, List.drop_of_length_le, eight, four, four', four'']

theorem mem_of_mem_groups {digits piece : List Char} {c : Char} (listed : piece ∈ groups digits)
    (inside : c ∈ piece) : c ∈ digits := by
  rw [← flatten_groups digits]
  exact List.mem_flatten_of_mem listed inside

theorem splitAll_hyphenated (id : Uuid) :
    Text.splitAll '-' id.hyphenated.toList = groups (hexText id.bytes) := by
  rw [toList_hyphenated]
  apply Text.splitAll_joinWith (List.cons_ne_nil _ _)
  exact fun piece listed inside => hyphen_not_mem_hexText id.bytes (mem_of_mem_groups listed inside)

theorem ofHyphenated?_eq_some_iff {text : List Char} {id : Uuid} :
    ofHyphenated? text = some id ↔ text.map Char.toLower = id.hyphenated.toList := by
  have lowered : Text.splitAll '-' (text.map Char.toLower) =
      (Text.splitAll '-' text).map (List.map Char.toLower) :=
    Text.splitAll_map (toLower_eq_mark_iff (by decide)) text
  have lengths : (Text.splitAll '-' (text.map Char.toLower)).map List.length =
      (Text.splitAll '-' text).map List.length := by
    simp [lowered]
  have digits : (Text.splitAll '-' (text.map Char.toLower)).flatten =
      (Text.splitAll '-' text).flatten.map Char.toLower := by
    rw [lowered, List.map_flatten]
  rw [ofHyphenated?, Option.ite_none_right_eq_some, ofDigits?_eq_some_iff, ← lengths, ← digits]
  constructor
  · rintro ⟨grouped, same⟩
    rw [toList_hyphenated, ← same, groups_flatten grouped, Text.joinWith_splitAll]
  · intro same
    rw [same, splitAll_hyphenated, flatten_groups]
    exact ⟨lengths_groups (by simp [id.length_eq]), rfl⟩

/-! ## The four forms -/

/-- The written forms of an identifier. -/
inductive Form where
  /-- The digits alone. -/
  | digits
  /-- The digits in groups with hyphens between them. -/
  | hyphenated
  /-- The groups in braces. -/
  | braced
  /-- The groups after `urn:uuid:`. -/
  | named
deriving DecidableEq, Repr

/-- An identifier in a form, in lower case. -/
def Form.write (id : Uuid) : Form → String
  | digits => String.ofList (hexText id.bytes)
  | hyphenated => id.hyphenated
  | braced => "\x7b" ++ id.hyphenated ++ "\x7d"
  | named => "urn:uuid:" ++ id.hyphenated

/-- How long a form is. -/
def Form.length : Form → Nat
  | digits => 32
  | hyphenated => 36
  | braced => 38
  | named => 45

/-- Whether a text is an identifier in one of its forms, with letters of either case. -/
def Denotes (text : String) (id : Uuid) : Prop :=
  ∃ form : Form, text.toList.map Char.toLower = (form.write id).toList

theorem length_toList_hyphenated (id : Uuid) : id.hyphenated.toList.length = 36 := by
  simp only [toList_hyphenated, groups, Text.joinWith, List.length_append, List.length_cons,
    List.length_take, List.length_drop, length_hexText, id.length_eq]
  rfl

theorem Form.length_toList_write (id : Uuid) (form : Form) :
    (form.write id).toList.length = form.length := by
  have hyphens := length_toList_hyphenated id
  cases form with
  | digits => simp [write, length, id.length_eq]
  | hyphenated => exact hyphens
  | braced => simpa [write, length] using hyphens
  | named =>
    have start : "urn:uuid:".toList.length = 9 := by decide
    rw [write, String.toList_append, List.length_append, start, hyphens, length]

/-- Where only one form has the length of a text, the text is an identifier in this form or none. -/
theorem denotes_iff_of_length {text : String} {id : Uuid} {form : Form}
    (only : ∀ other : Form, text.toList.length = other.length → other = form) :
    Denotes text id ↔ text.toList.map Char.toLower = (form.write id).toList := by
  constructor
  · rintro ⟨other, same⟩
    have length := congrArg List.length same
    rw [List.length_map, Form.length_toList_write] at length
    rw [same, only other length]
  · exact fun same => ⟨form, same⟩

theorem ofBraced?_eq_some_iff {rest : List Char} {id : Uuid} :
    (if rest.getLast? = some '\x7d' then ofHyphenated? rest.dropLast else none) = some id ↔
      rest.map Char.toLower = id.hyphenated.toList ++ ['\x7d'] := by
  rw [Option.ite_none_right_eq_some, ofHyphenated?_eq_some_iff]
  constructor
  · rintro ⟨closed, inside⟩
    obtain ⟨front, rfl⟩ := List.getLast?_eq_some_iff.1 closed
    rw [List.dropLast_concat] at inside
    rw [List.map_append, inside]
    rfl
  · intro same
    obtain ⟨front, _, rfl, inside, last⟩ := List.map_eq_append_iff.1 same
    obtain ⟨c, _, rfl, isMark, nothing⟩ := List.map_eq_cons_iff.1 last
    obtain rfl := List.map_eq_nil_iff.1 nothing
    obtain rfl := (toLower_eq_mark_iff (by decide) c).1 isMark
    exact ⟨List.getLast?_concat .., by rw [List.dropLast_concat]; exact inside⟩

/-- A text with a known beginning is that beginning and the rest, also where letters are lowered. -/
theorem map_toLower_eq_append_iff {text start rest : List Char} :
    text.map Char.toLower = start ++ rest ↔ (text.take start.length).map Char.toLower = start ∧
      (text.drop start.length).map Char.toLower = rest := by
  rw [List.map_take, List.map_drop]
  constructor
  · intro same
    rw [same]
    exact ⟨List.take_left, List.drop_left⟩
  · rintro ⟨first, second⟩
    rw [← List.take_append_drop start.length (text.map Char.toLower), first, second]

/-- Reading accepts the four forms of an identifier and nothing else. -/
theorem parse?_eq_some_iff {text : String} {id : Uuid} : parse? text = some id ↔ Denotes text id := by
  have only (form : Form) (length : text.toList.length = form.length) (other : Form)
      (length' : text.toList.length = other.length) : other = form := by
    rw [length] at length'
    cases form <;> cases other <;> first | rfl | cases length'
  unfold parse?
  simp only
  split
  case isTrue digits =>
    rw [denotes_iff_of_length (only .digits digits), ofDigits?_eq_some_iff, Form.write,
      String.toList_ofList]
  case isFalse noDigits =>
    split
    case isTrue hyphenated =>
      rw [denotes_iff_of_length (only .hyphenated hyphenated), ofHyphenated?_eq_some_iff,
        Form.write]
    case isFalse noHyphens =>
      split
      case isTrue braced =>
        have whole : (Form.braced.write id).toList =
            '\x7b' :: (id.hyphenated.toList ++ ['\x7d']) := by
          simp [Form.write]
        rw [denotes_iff_of_length (only .braced braced), whole]
        split
        case h_1 rest opened =>
          rw [ofBraced?_eq_some_iff, opened, List.map_cons, List.cons.injEq,
            toLower_eq_mark_iff (by decide)]
          exact (and_iff_right rfl).symm
        case h_2 unopened =>
          constructor
          · nofun
          · intro same
            obtain ⟨c, rest, opened, isMark, _⟩ := List.map_eq_cons_iff.1 same
            obtain rfl := (toLower_eq_mark_iff (by decide) c).1 isMark
            exact absurd opened (unopened rest)
      case isFalse noBraces =>
        have long (other : Form) (length : text.toList.length = other.length) : other = .named := by
          cases other with
          | digits => exact absurd length noDigits
          | hyphenated => exact absurd length noHyphens
          | braced => exact absurd length noBraces
          | named => rfl
        rw [denotes_iff_of_length long, Form.write, String.toList_append, map_toLower_eq_append_iff,
          Option.ite_none_right_eq_some, ofHyphenated?_eq_some_iff]
        rfl

/-- Groups of the wrong lengths are no identifier, though there are four hyphens and enough digits. -/
example : parse? "f81d4fae-7dec-11d0-a76500a0-c91e6bf6" = none := by decide

/-! ## The form with hyphens -/

end Uuid

end DeviceGateway
