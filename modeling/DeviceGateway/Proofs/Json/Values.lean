/-
# Values of JSON read back

What was read from a document has its members in order, whole numbers that fit and a bounded depth, and
such a value is read back from its compact text: `ReadsBack` says so for one value, and the induction
over values carries it, with the bound on the depth as it was.  The text of a value is long enough to
pay for the fuel that reading it takes, whatever follows.
-/

import DeviceGateway.Proofs.Entries
import DeviceGateway.Proofs.Json.Numbers
import DeviceGateway.Proofs.Json.Strings

namespace DeviceGateway

namespace Json

open Utf8 (encode)

/-- A value whose numbers are whole. -/
inductive Value.OnlyIntegers : Value → Prop
  | null : OnlyIntegers .null
  | bool (value : Bool) : OnlyIntegers (.bool value)
  | integer (value : Int) : OnlyIntegers (.number (.integer value))
  | text (value : String) : OnlyIntegers (.text value)
  | array {items : List Value} (each : ∀ item ∈ items, OnlyIntegers item) :
      OnlyIntegers (.array items)
  | object {members : List (String × Value)} (each : ∀ member ∈ members, OnlyIntegers member.2) :
      OnlyIntegers (.object members)

/-- A value of whole numbers that a document of a bounded depth has: the numbers fit, and the members
of its objects stand in order. -/
inductive Value.Kept : Nat → Value → Prop
  | null {depth : Nat} : Kept depth .null
  | bool {depth : Nat} (value : Bool) : Kept depth (.bool value)
  | integer {depth : Nat} {value : Int} (fits : Number.Fits value) :
      Kept depth (.number (.integer value))
  | text {depth : Nat} (value : String) : Kept depth (.text value)
  | array {depth : Nat} {items : List Value} (each : ∀ item ∈ items, Kept depth item) :
      Kept (depth + 1) (.array items)
  | object {depth : Nat} {members : List (String × Value)} (ordered : Entries.Ordered members)
      (each : ∀ member ∈ members, Kept depth member.2) : Kept (depth + 1) (.object members)

theorem Value.Kept.onlyIntegers {depth : Nat} {value : Value} (kept : Kept depth value) :
    value.OnlyIntegers := by
  induction kept with
  | null => exact .null
  | bool value => exact .bool value
  | integer => exact .integer _
  | text value => exact .text value
  | array _ ih => exact .array ih
  | object _ _ ih => exact .object ih

/-! ## What is read is kept -/

namespace Number

theorem gatherWhole_le {significand : Nat} (low : significand ≤ greatestSignificand)
    (digits : List Nat) : (gatherWhole significand digits).1 ≤ greatestSignificand := by
  induction digits generalizing significand with
  | nil => exact low
  | cons d rest ih =>
    unfold gatherWhole
    split
    case isTrue fits => exact ih fits
    case isFalse => exact low

theorem double?_ne_integer {negative : Bool} {significand : Nat} {exponent value : Int} :
    double? negative significand exponent ≠ some (.integer value) := by
  intro read
  obtain ⟨_, _, same⟩ := Option.map_eq_some_iff.1 read
  cases same

/-- A numeral that is read as a whole number is one that fits. -/
theorem fits_of_of? {numeral : Numeral} {value : Int} (read : of? numeral = some (.integer value)) :
    Fits value := by
  have bound := gatherWhole_le (Nat.zero_le greatestSignificand) numeral.whole
  unfold of? at read
  generalize gatherWhole 0 numeral.whole = gathered at read bound
  obtain ⟨whole, surplus⟩ := gathered
  simp only at read bound
  split at read
  case isTrue =>
    split at read
    case isTrue =>
      cases read
      exact ⟨by omega, Int.ofNat_le.2 bound⟩
    case isFalse =>
      split at read
      case isTrue small =>
        cases read
        exact ⟨by omega, by omega⟩
      case isFalse => exact absurd read double?_ne_integer
  case isFalse =>
    split at read
    case h_1 => exact absurd read double?_ne_integer
    case h_2 =>
      split at read
      case isTrue =>
        split at read
        case isTrue => cases read
        case isFalse => exact absurd read double?_ne_integer
      case isFalse => exact absurd read double?_ne_integer

end Number

open Value (OnlyIntegers Kept)

theorem kept_of_itemValues? {depth : Nat}
    (inner : ∀ document value, Syntax.value? depth document = some value → OnlyIntegers value →
      Kept depth value)
    {documents : List Syntax} {items : List Value} (read : itemValues? depth documents = some items)
    (whole : ∀ item ∈ items, OnlyIntegers item) : ∀ item ∈ items, Kept depth item := by
  induction documents generalizing items with
  | nil =>
    cases read
    exact nofun
  | cons first rest ih =>
    unfold itemValues? at read
    split at read
    case h_1 => cases read
    case h_2 value found =>
      obtain ⟨more, later, rfl⟩ := Option.map_eq_some_iff.1 read
      obtain ⟨wholeFirst, wholeRest⟩ := List.forall_mem_cons.1 whole
      exact List.forall_mem_cons.2 ⟨inner first value found wholeFirst, ih later wholeRest⟩

/-- A later member takes the place of an earlier one of its name, which may have been of any kind. -/
theorem kept_of_memberValues? {depth : Nat}
    (inner : ∀ document value, Syntax.value? depth document = some value → OnlyIntegers value →
      Kept depth value)
    {documents : List (List Piece × Syntax)} {before members : List (String × Value)}
    (read : memberValues? depth before documents = some members) (ordered : Entries.Ordered before)
    (kept : ∀ member ∈ before, OnlyIntegers member.2 → Kept depth member.2) :
    Entries.Ordered members ∧ ∀ member ∈ members, OnlyIntegers member.2 → Kept depth member.2 := by
  induction documents generalizing before with
  | nil =>
    cases read
    exact ⟨ordered, kept⟩
  | cons first rest ih =>
    obtain ⟨pieces, document⟩ := first
    unfold memberValues? at read
    split at read
    case h_1 => cases read
    case h_2 name _ =>
      split at read
      case h_1 => cases read
      case h_2 value found =>
        apply ih read (Entries.ordered_insert name value ordered)
        intro member isIn
        rcases Entries.mem_insert isIn with new | old
        · rw [new]
          exact inner document value found
        · exact kept member old

/-- A value of whole numbers that was read has its members in order, fits and is not too deep. -/
theorem kept_of_value? {depth : Nat} {document : Syntax} {value : Value}
    (read : document.value? depth = some value) (whole : OnlyIntegers value) : Kept depth value := by
  induction depth using Nat.strongRecOn generalizing document value with
  | ind depth ih =>
    cases document with
    | null =>
      cases read
      exact .null
    | bool b =>
      cases read
      exact .bool b
    | number numeral =>
      obtain ⟨number, found, rfl⟩ := Option.map_eq_some_iff.1 read
      cases whole
      exact .integer (Number.fits_of_of? found)
    | text pieces =>
      obtain ⟨text, _, rfl⟩ := Option.map_eq_some_iff.1 read
      exact .text text
    | array documents =>
      cases depth with
      | zero => cases read
      | succ depth =>
        obtain ⟨items, found, rfl⟩ := Option.map_eq_some_iff.1 read
        cases whole with
        | array each =>
          have inner := fun document value => @ih depth (Nat.lt_succ_self depth) document value
          exact .array (kept_of_itemValues? inner found each)
    | object documents =>
      cases depth with
      | zero => cases read
      | succ depth =>
        obtain ⟨members, found, rfl⟩ := Option.map_eq_some_iff.1 read
        cases whole with
        | object each =>
          have inner := fun document value => @ih depth (Nat.lt_succ_self depth) document value
          obtain ⟨ordered, kept⟩ := kept_of_memberValues? inner found List.Pairwise.nil nofun
          exact .object ordered fun member isIn => kept member isIn (each member isIn)

/-! ## What is kept is read back -/

/-- A value is read back from its text as a document, wherever a value may end. -/
structure ReadsBack (depth : Nat) (value : Value) (document : Syntax) : Prop where
  value? : document.value? depth = some value
  read : ∀ fuel rest, 2 * (encode value.print).length ≤ fuel → Ends rest →
    Reader.value? fuel (encode value.print ++ rest) = some (document, rest)

/-- A byte that begins a value: it is neither white space nor a closing bracket. -/
def Begins (b : UInt8) : Prop := Reader.isSpace b = false ∧ b ≠ 0x5D ∧ b ≠ 0x7D

instance (b : UInt8) : Decidable (Begins b) := inferInstanceAs (Decidable (_ ∧ _))

/-- What a number begins with. -/
def BeginsNumber (b : UInt8) : Prop := b = 0x2D ∨ (Reader.decimalDigit? b).isSome = true

instance (b : UInt8) : Decidable (BeginsNumber b) := inferInstanceAs (Decidable (_ ∨ _))

theorem BeginsNumber.begins {b : UInt8} (number : BeginsNumber b) : Begins b := by
  refine ⟨Bool.eq_false_iff.2 ?_, ?_, ?_⟩
  · intro space
    simp only [Reader.isSpace, Bool.or_eq_true, beq_iff_eq] at space
    rcases space with ((rfl | rfl) | rfl) | rfl <;> exact absurd number (by decide)
  · rintro rfl
    exact absurd number (by decide)
  · rintro rfl
    exact absurd number (by decide)

/-- The text of a value begins with a byte that begins a value. -/
theorem Value.Kept.print_head {depth : Nat} {value : Value} (kept : Kept depth value) :
    ∃ b more, encode value.print = b :: more ∧ Begins b := by
  cases kept with
  | null => exact ⟨Reader.ascii 'n', _, rfl, by decide⟩
  | bool value =>
    cases value with
    | true => exact ⟨Reader.ascii 't', _, rfl, by decide⟩
    | false => exact ⟨Reader.ascii 'f', _, rfl, by decide⟩
  | @integer _ value _ =>
    obtain ⟨b, more, begins, number⟩ := Number.print_head value
    exact ⟨b, more, begins, BeginsNumber.begins number⟩
  | text value => exact ⟨Reader.ascii '"', _, rfl, by decide⟩
  | @array _ items _ => cases items <;> exact ⟨Reader.ascii '[', _, rfl, by decide⟩
  | @object _ members _ _ => cases members <;> exact ⟨Reader.ascii '\x7b', _, rfl, by decide⟩

namespace Reader

theorem skipSpace_of_begins {b : UInt8} (begins : Begins b) (more : Bytes) :
    skipSpace (b :: more) = b :: more :=
  List.dropWhile_cons_of_neg (by simp [begins.1])

theorem value?_number {b : UInt8} (number : BeginsNumber b) (fuel : Nat) (more : Bytes) :
    value? (fuel + 1) (b :: more) =
      (numeral? (b :: more)).map fun found => (.number found.1, found.2) := by
  rw [value?, skipSpace_of_begins number.begins]
  -- No other rule begins with such a byte.
  have other : ∀ c rest, ¬ BeginsNumber c → b :: more ≠ c :: rest := by
    intro c rest foreign same
    rw [(List.cons.inj same).1] at number
    exact foreign number
  split
  case h_1 same => cases same
  case h_2 same => exact absurd same (other _ _ (by decide))
  case h_3 same => exact absurd same (other _ _ (by decide))
  case h_4 same => exact absurd same (other _ _ (by decide))
  case h_5 same => exact absurd same (other _ _ (by decide))
  case h_6 same => exact absurd same (other _ _ (by decide))
  case h_7 same => exact absurd same (other _ _ (by decide))
  case h_8 => rfl

theorem value?_text (text : String) (fuel : Nat) (rest : Bytes) :
    value? (fuel + 1) (encode (quote text) ++ rest) = some (.text (textPieces text), rest) := by
  have bytes : encode (quote text) ++ rest =
      0x22 :: (encode (text.toList.flatMap escape ++ ['"']) ++ rest) := rfl
  rw [bytes, value?, skipSpace_of_begins (by decide)]
  simp only [text?_quote, Option.map_some]

theorem value?_array {b : UInt8} (begins : Begins b) (fuel : Nat) (more : Bytes) :
    value? (fuel + 1) (0x5B :: b :: more) =
      (items? fuel [] (b :: more)).map fun found => (.array found.1, found.2) := by
  rw [value?, skipSpace_of_begins (by decide)]
  simp only [skipSpace_of_begins begins]
  split
  case h_1 same => exact absurd (List.cons.inj same).1 begins.2.1
  case h_2 => rfl

theorem value?_object {b : UInt8} (begins : Begins b) (fuel : Nat) (more : Bytes) :
    value? (fuel + 1) (0x7B :: b :: more) =
      (members? fuel [] (b :: more)).map fun found => (.object found.1, found.2) := by
  rw [value?, skipSpace_of_begins (by decide)]
  simp only [skipSpace_of_begins begins]
  split
  case h_1 same => exact absurd (List.cons.inj same).1 begins.2.2
  case h_2 => rfl

end Reader

theorem ends_printItems (items : List Value) (rest : Bytes) : Ends (encode (printItems items) ++ rest) := by
  rintro b more same
  cases items with
  | nil =>
    obtain rfl := (List.cons.inj same).1
    decide
  | cons =>
    obtain rfl := (List.cons.inj same).1
    decide

theorem ends_printMembers (members : List (String × Value)) (rest : Bytes) :
    Ends (encode (printMembers members) ++ rest) := by
  rintro b more same
  cases members with
  | nil =>
    obtain rfl := (List.cons.inj same).1
    decide
  | cons member =>
    obtain rfl := (List.cons.inj same).1
    decide

/-- Items are read back one after the other, each with one unit of fuel less. -/
theorem items?_print {depth : Nat} {item : Value} {items : List Value} {document : Syntax}
    {documents : List Syntax} (first : ReadsBack depth item document)
    (others : List.Forall₂ (ReadsBack depth) items documents) {fuel : Nat} {before : List Syntax}
    {rest : Bytes} (enough : 2 * (encode (item.print ++ printItems items)).length + 1 ≤ fuel) :
    Reader.items? fuel before (encode (item.print ++ printItems items) ++ rest) =
      some (before.reverse ++ document :: documents, rest) := by
  induction others generalizing item document before fuel with
  | nil =>
    obtain ⟨fuel, rfl⟩ : ∃ less, fuel = less + 1 := Nat.exists_eq_add_of_le' (by omega)
    rw [Utf8.encode_append, List.length_append] at enough
    rw [Utf8.encode_append, List.append_assoc, Reader.items?,
      first.read fuel _ (by omega) (ends_printItems [] rest)]
    have closed : Reader.skipSpace (encode (printItems []) ++ rest) = 0x5D :: rest := rfl
    simp only [closed, List.reverse_cons]
  | @cons next nextDocument items documents second others ih =>
    obtain ⟨fuel, rfl⟩ : ∃ less, fuel = less + 1 := Nat.exists_eq_add_of_le' (by omega)
    have length : (encode (printItems (next :: items))).length =
        (encode (next.print ++ printItems items)).length + 1 := rfl
    rw [Utf8.encode_append, List.length_append, length] at enough
    rw [Utf8.encode_append, List.append_assoc, Reader.items?,
      first.read fuel _ (by omega) (ends_printItems (next :: items) rest)]
    have comma : Reader.skipSpace (encode (printItems (next :: items)) ++ rest) =
        0x2C :: (encode (next.print ++ printItems items) ++ rest) := rfl
    simp only [comma]
    rw [ih second (by omega), List.reverse_cons, List.append_assoc, List.singleton_append]

/-- A member is read back with its name. -/
structure MemberReadsBack (depth : Nat) (member : String × Value) (document : List Piece × Syntax) :
    Prop where
  name : document.1 = Reader.textPieces member.1
  value : ReadsBack depth member.2 document.2

/-- The text of a member. -/
def printMember (member : String × Value) : List Char :=
  quote member.1 ++ ':' :: member.2.print

/-- What is read after a member has been read. -/
def afterMember (fuel : Nat) (before : List (List Piece × Syntax)) (bytes : Bytes) :
    Option (List (List Piece × Syntax) × Bytes) :=
  match Reader.skipSpace bytes with
  | 0x2C :: more => Reader.members? fuel before more
  | 0x7D :: after => some (before.reverse, after)
  | _ => none

/-- The first step of reading members. -/
theorem members?_first {depth : Nat} {member : String × Value} {document : List Piece × Syntax}
    (first : MemberReadsBack depth member document) {fuel : Nat}
    {before : List (List Piece × Syntax)} {rest : Bytes}
    (enough : 2 * (encode (printMember member)).length ≤ fuel) (ends : Ends rest) :
    Reader.members? (fuel + 1) before (encode (printMember member) ++ rest) =
      afterMember fuel (document :: before) rest := by
  obtain ⟨name, value⟩ := member
  obtain ⟨pieces, form⟩ := document
  obtain ⟨named, read⟩ := first
  simp only at named read
  subst named
  have text : printMember (name, value) =
      '"' :: (name.toList.flatMap escape ++ ['"'] ++ ':' :: value.print) := rfl
  have bytes : encode (printMember (name, value)) ++ rest =
      0x22 :: (encode (name.toList.flatMap escape ++ ['"']) ++ (0x3A :: (encode value.print ++ rest))) := by
    rw [text, Utf8.encode_cons, Utf8.encode_append, Utf8.encode_cons]
    simp only [List.append_assoc]
    rfl
  have length : (encode (printMember (name, value))).length =
      (encode (quote name)).length + ((encode value.print).length + 1) := by
    rw [printMember, Utf8.encode_append, List.length_append]
    rfl
  have colon : ∀ more, Reader.skipSpace (0x3A :: more) = 0x3A :: more := fun _ => rfl
  rw [bytes, Reader.members?, Reader.skipSpace_of_begins (by decide)]
  simp only [Reader.text?_quote, colon, read.read fuel rest (by omega) ends]
  rfl

/-- Members are read back one after the other, each with one unit of fuel less. -/
theorem members?_print {depth : Nat} {member : String × Value} {members : List (String × Value)}
    {document : List Piece × Syntax} {documents : List (List Piece × Syntax)}
    (first : MemberReadsBack depth member document)
    (others : List.Forall₂ (MemberReadsBack depth) members documents) {fuel : Nat}
    {before : List (List Piece × Syntax)} {rest : Bytes}
    (enough : 2 * (encode (printMember member ++ printMembers members)).length + 1 ≤ fuel) :
    Reader.members? fuel before (encode (printMember member ++ printMembers members) ++ rest) =
      some (before.reverse ++ document :: documents, rest) := by
  induction others generalizing member document before fuel with
  | nil =>
    obtain ⟨fuel, rfl⟩ : ∃ less, fuel = less + 1 := Nat.exists_eq_add_of_le' (by omega)
    rw [Utf8.encode_append, List.length_append] at enough
    rw [Utf8.encode_append, List.append_assoc,
      members?_first first (by omega) (ends_printMembers [] rest)]
    have closed : Reader.skipSpace (encode (printMembers []) ++ rest) = 0x7D :: rest := rfl
    simp only [afterMember, closed, List.reverse_cons]
  | @cons next nextDocument members documents second others ih =>
    obtain ⟨fuel, rfl⟩ : ∃ less, fuel = less + 1 := Nat.exists_eq_add_of_le' (by omega)
    have text : printMembers (next :: members) = ',' :: (printMember next ++ printMembers members) := by
      rw [printMembers, printMember, List.append_assoc, List.cons_append]
    have length : (encode (printMembers (next :: members))).length =
        (encode (printMember next ++ printMembers members)).length + 1 := by
      rw [text]
      rfl
    rw [Utf8.encode_append, List.length_append, length] at enough
    rw [Utf8.encode_append, List.append_assoc,
      members?_first first (by omega) (ends_printMembers (next :: members) rest)]
    have comma : Reader.skipSpace (encode (printMembers (next :: members)) ++ rest) =
        0x2C :: (encode (printMember next ++ printMembers members) ++ rest) := by
      rw [text]
      rfl
    simp only [afterMember, comma]
    rw [ih second (by omega), List.reverse_cons, List.append_assoc, List.singleton_append]

/-! ## The values of what was read -/

theorem itemValues?_of_readsBack {depth : Nat} {items : List Value} {documents : List Syntax}
    (each : List.Forall₂ (ReadsBack depth) items documents) :
    itemValues? depth documents = some items := by
  induction each with
  | nil => rfl
  | cons first _ ih => rw [itemValues?, first.value?, ih]; rfl

/-- Members in order keep their order. -/
theorem memberValues?_of_readsBack {depth : Nat} {members before : List (String × Value)}
    {documents : List (List Piece × Syntax)}
    (each : List.Forall₂ (MemberReadsBack depth) members documents)
    (ordered : Entries.Ordered (before ++ members)) :
    memberValues? depth before documents = some (before ++ members) := by
  induction each generalizing before with
  | nil => rw [memberValues?, List.append_nil]
  | @cons member document members documents first _ ih =>
    obtain ⟨name, value⟩ := member
    obtain ⟨pieces, form⟩ := document
    obtain ⟨named, read⟩ := first
    simp only at named read
    have after : ∀ entry ∈ before, entry.1 < name := fun entry isIn =>
      (List.pairwise_append.1 ordered).2.2 entry isIn (name, value) List.mem_cons_self
    rw [memberValues?, named, pieceText?_textPieces]
    simp only [read.value?, Entries.insert_of_after after]
    rw [ih (by simpa using ordered), List.append_assoc, List.singleton_append]

theorem exists_forall₂ {α β : Type} {R : α → β → Prop} {items : List α}
    (each : ∀ item ∈ items, ∃ other, R item other) : ∃ others, List.Forall₂ R items others := by
  induction items with
  | nil => exact ⟨[], .nil⟩
  | cons item items ih =>
    obtain ⟨⟨other, first⟩, rest⟩ := List.forall_mem_cons.1 each
    obtain ⟨others, more⟩ := ih rest
    exact ⟨other :: others, .cons first more⟩

/-! ## Every kind of value -/

theorem readsBack_null {depth : Nat} : ReadsBack depth .null .null where
  value? := by rw [Syntax.value?]
  read := by
    intro fuel rest enough _
    obtain ⟨fuel, rfl⟩ : ∃ less, fuel = less + 1 :=
      Nat.exists_eq_add_of_le' (Nat.le_trans (by decide) enough)
    rfl

theorem readsBack_bool {depth : Nat} (value : Bool) : ReadsBack depth (.bool value) (.bool value) where
  value? := by rw [Syntax.value?]
  read := by
    intro fuel rest enough _
    cases value with
    | true =>
      obtain ⟨fuel, rfl⟩ : ∃ less, fuel = less + 1 :=
        Nat.exists_eq_add_of_le' (Nat.le_trans (by decide) enough)
      rfl
    | false =>
      obtain ⟨fuel, rfl⟩ : ∃ less, fuel = less + 1 :=
        Nat.exists_eq_add_of_le' (Nat.le_trans (by decide) enough)
      rfl

theorem readsBack_integer {depth : Nat} {value : Int} {numeral : Numeral}
    (isValue : Number.of? numeral = some (.integer value))
    (read : ∀ rest, Ends rest →
      Reader.numeral? (encode (Number.integer value).print ++ rest) = some (numeral, rest)) :
    ReadsBack depth (.number (.integer value)) (.number numeral) where
  value? := by rw [Syntax.value?, isValue]; rfl
  read := by
    intro fuel rest enough ends
    have found := read rest ends
    obtain ⟨b, more, begins, number⟩ := Number.print_head value
    rw [Value.print] at enough ⊢
    rw [begins, List.length_cons] at enough
    rw [begins, List.cons_append] at found ⊢
    obtain ⟨fuel, rfl⟩ : ∃ less, fuel = less + 1 := Nat.exists_eq_add_of_le' (by omega)
    rw [Reader.value?_number number, found]
    rfl

theorem readsBack_text {depth : Nat} (text : String) :
    ReadsBack depth (.text text) (.text (Reader.textPieces text)) where
  value? := by rw [Syntax.value?, pieceText?_textPieces]; rfl
  read := by
    intro fuel rest enough _
    have filled : 1 ≤ (encode (quote text)).length := Nat.succ_pos _
    rw [Value.print] at enough ⊢
    obtain ⟨fuel, rfl⟩ : ∃ less, fuel = less + 1 := Nat.exists_eq_add_of_le' (by omega)
    exact Reader.value?_text text fuel rest

theorem readsBack_array {depth : Nat} {items : List Value} {documents : List Syntax}
    (kept : ∀ item ∈ items, Kept depth item)
    (each : List.Forall₂ (ReadsBack depth) items documents) :
    ReadsBack (depth + 1) (.array items) (.array documents) where
  value? := by rw [Syntax.value?, itemValues?_of_readsBack each]; rfl
  read := by
    intro fuel rest enough _
    cases each with
    | nil =>
      obtain ⟨fuel, rfl⟩ : ∃ less, fuel = less + 1 :=
        Nat.exists_eq_add_of_le' (Nat.le_trans (by decide) enough)
      rfl
    | @cons item document items documents first others =>
      have length : (encode (Value.array (item :: items)).print).length =
          (encode (item.print ++ printItems items)).length + 1 := rfl
      obtain ⟨fuel, rfl⟩ : ∃ less, fuel = less + 1 := Nat.exists_eq_add_of_le' (by omega)
      have read : Reader.items? fuel [] (encode (item.print ++ printItems items) ++ rest) =
          some (document :: documents, rest) := items?_print first others (by omega)
      obtain ⟨b, more, begins, head⟩ := (kept item List.mem_cons_self).print_head
      have bytes : encode (Value.array (item :: items)).print ++ rest =
          0x5B :: (encode (item.print ++ printItems items) ++ rest) := rfl
      rw [Utf8.encode_append, begins, List.cons_append, List.cons_append] at bytes read
      rw [bytes, Reader.value?_array head, read]
      rfl

theorem readsBack_object {depth : Nat} {members : List (String × Value)}
    {documents : List (List Piece × Syntax)} (ordered : Entries.Ordered members)
    (each : List.Forall₂ (MemberReadsBack depth) members documents) :
    ReadsBack (depth + 1) (.object members) (.object documents) where
  value? := by
    have values : memberValues? depth [] documents = some members :=
      memberValues?_of_readsBack each ordered
    rw [Syntax.value?, values]
    rfl
  read := by
    intro fuel rest enough _
    cases each with
    | nil =>
      obtain ⟨fuel, rfl⟩ : ∃ less, fuel = less + 1 :=
        Nat.exists_eq_add_of_le' (Nat.le_trans (by decide) enough)
      rfl
    | @cons member document members documents first others =>
      have text : (Value.object (member :: members)).print =
          '\x7b' :: (printMember member ++ printMembers members) := by
        rw [Value.print, printMember, List.append_assoc, List.cons_append]
      have length : (encode (Value.object (member :: members)).print).length =
          (encode (printMember member ++ printMembers members)).length + 1 := by
        rw [text]
        rfl
      obtain ⟨fuel, rfl⟩ : ∃ less, fuel = less + 1 := Nat.exists_eq_add_of_le' (by omega)
      have read : Reader.members? fuel [] (encode (printMember member ++ printMembers members) ++ rest) =
          some (document :: documents, rest) := members?_print first others (by omega)
      obtain ⟨more, begins⟩ : ∃ more,
          encode (printMember member ++ printMembers members) ++ rest = 0x22 :: more := ⟨_, rfl⟩
      have bytes : encode (Value.object (member :: members)).print ++ rest = 0x7B :: 0x22 :: more := by
        rw [text, ← begins]
        rfl
      rw [begins] at read
      rw [bytes, Reader.value?_object (by decide), read]
      rfl

/-- A kept value is read back. -/
theorem Value.Kept.exists_readsBack {depth : Nat} {value : Value} (kept : Kept depth value) :
    ∃ document, ReadsBack depth value document := by
  induction kept with
  | null => exact ⟨_, readsBack_null⟩
  | bool value => exact ⟨_, readsBack_bool value⟩
  | integer fits =>
    obtain ⟨numeral, isValue, read⟩ := Number.numeral?_print fits
    exact ⟨_, readsBack_integer isValue read⟩
  | text value => exact ⟨_, readsBack_text value⟩
  | array each ih =>
    obtain ⟨documents, readBack⟩ := exists_forall₂ ih
    exact ⟨.array documents, readsBack_array each readBack⟩
  | @object depth members ordered each ih =>
    have named : ∀ member ∈ members, ∃ document, MemberReadsBack depth member document := by
      intro member isIn
      obtain ⟨document, readBack⟩ := ih member isIn
      exact ⟨(Reader.textPieces member.1, document), rfl, readBack⟩
    obtain ⟨documents, readBack⟩ := exists_forall₂ named
    exact ⟨.object documents, readsBack_object ordered readBack⟩

/-- A document that ends after a value is read as the syntax of the value. -/
theorem ReadsBack.syntax {depth : Nat} {value : Value} {document : Syntax}
    (readBack : ReadsBack depth value document) : Syntax.read? value.toBytes = some document := by
  have read := readBack.read (2 * value.toBytes.length + 2) [] (Nat.le_add_right _ _) nofun
  rw [List.append_nil] at read
  rw [Value.toBytes] at read ⊢
  simp only [Syntax.read?, read]
  rfl

/-- A kept value is the value of its document. -/
theorem Value.Kept.read?_toBytes {value : Value} (kept : Kept greatestDepth value) :
    Value.read? value.toBytes = some value := by
  obtain ⟨document, readBack⟩ := kept.exists_readsBack
  rw [Value.read?, readBack.syntax]
  exact readBack.value?

end Json

end DeviceGateway
