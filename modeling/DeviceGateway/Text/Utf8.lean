/-
# UTF-8

Reading bytes as text in two ways.  The strict reading refuses bytes that are not UTF-8.  The
lenient reading puts U+FFFD in the place of every broken sequence, where a broken sequence is the
longest beginning of a well-formed one: after a lead byte, the continuation bytes that could still
belong to it are dropped with it, and reading goes on at the first byte that could not.

Both readings share one step, `nextChar`, so that they agree on every well-formed text.
-/

namespace DeviceGateway

/-- A sequence of bytes: a message body, a payload or a delivery tag. -/
abbrev Bytes := List UInt8

namespace Utf8

/-- The bytes of a sequence of characters. -/
def encode (text : List Char) : Bytes :=
  text.flatMap String.utf8EncodeChar

/-- Read continuation bytes.  The first must lie between `low` and `high`, the later ones between
0x80 and 0xBF; each adds six bits to `code`.  A byte outside its range ends the sequence and is not
consumed. -/
def continuation : (count low high code : Nat) → Bytes → Option Nat × Bytes
  | 0, _, _, code, rest => (some code, rest)
  | _ + 1, _, _, _, [] => (none, [])
  | count + 1, low, high, code, b :: rest =>
    if low ≤ b.toNat ∧ b.toNat ≤ high then
      continuation count 0x80 0xBF (code * 64 + b.toNat % 64) rest
    else
      (none, b :: rest)

/-- The code point that starts with byte `lead`, or nothing for a broken sequence, and the bytes
after it.  The range of the second byte excludes overlong forms, surrogates and code points
above U+10FFFF. -/
def nextCode (lead : UInt8) (rest : Bytes) : Option Nat × Bytes :=
  let n := lead.toNat
  if n < 0x80 then (some n, rest)
  else if n < 0xC2 then (none, rest)
  else if n < 0xE0 then continuation 1 0x80 0xBF (n % 32) rest
  else if n = 0xE0 then continuation 2 0xA0 0xBF 0 rest
  else if n = 0xED then continuation 2 0x80 0x9F 13 rest
  else if n < 0xF0 then continuation 2 0x80 0xBF (n % 16) rest
  else if n = 0xF0 then continuation 3 0x90 0xBF 0 rest
  else if n < 0xF4 then continuation 3 0x80 0xBF (n % 8) rest
  else if n = 0xF4 then continuation 3 0x80 0x8F 4 rest
  else (none, rest)

theorem continuation_length (count low high code : Nat) (rest : Bytes) :
    (continuation count low high code rest).2.length ≤ rest.length := by
  induction count generalizing low high code rest with
  | zero => simp [continuation]
  | succ count ih =>
    cases rest with
    | nil => simp [continuation]
    | cons b tail =>
      unfold continuation
      split
      · exact Nat.le_succ_of_le (ih _ _ _ _)
      · simp

theorem nextCode_length (lead : UInt8) (rest : Bytes) :
    (nextCode lead rest).2.length ≤ rest.length := by
  unfold nextCode
  simp only
  repeat' split
  all_goals first | exact Nat.le_refl _ | exact continuation_length _ _ _ _ _

/-- The character U+FFFD that stands for a broken sequence. -/
def replacement : Char := '\uFFFD'

/-- Read bytes as text, with U+FFFD for every broken sequence, after the characters `before`, which
stand in reverse. -/
def decodeLossyAfter (before : List Char) : Bytes → List Char
  | [] => before.reverse
  | lead :: rest =>
    have shorter := nextCode_length lead rest
    match step : nextCode lead rest with
    | (some code, after) =>
      have : after.length ≤ rest.length := by rw [step] at shorter; exact shorter
      decodeLossyAfter (Char.ofNat code :: before) after
    | (none, after) =>
      have : after.length ≤ rest.length := by rw [step] at shorter; exact shorter
      decodeLossyAfter (replacement :: before) after
termination_by bytes => bytes.length
decreasing_by all_goals (simp only [List.length_cons]; omega)

/-- Read bytes as text, with U+FFFD for every broken sequence. -/
def decodeLossy (bytes : Bytes) : List Char := decodeLossyAfter [] bytes

/-- Read bytes as text after the characters `before`, which stand in reverse; nothing if some
sequence is broken. -/
def decodeAfter? (before : List Char) : Bytes → Option (List Char)
  | [] => some before.reverse
  | lead :: rest =>
    have shorter := nextCode_length lead rest
    match step : nextCode lead rest with
    | (some code, after) =>
      have : after.length ≤ rest.length := by rw [step] at shorter; exact shorter
      decodeAfter? (Char.ofNat code :: before) after
    | (none, _) => none
termination_by bytes => bytes.length
decreasing_by simp only [List.length_cons]; omega

/-- Read bytes as text; nothing if some sequence is broken. -/
def decode? (bytes : Bytes) : Option (List Char) := decodeAfter? [] bytes

/-- The bytes of a text. -/
def ofString (text : String) : Bytes :=
  encode text.toList

/-- The text of bytes, if they are UTF-8. -/
def toString? (bytes : Bytes) : Option String :=
  (decode? bytes).map String.ofList

/-- The text of bytes, with U+FFFD for every broken sequence. -/
def toStringLossy (bytes : Bytes) : String :=
  String.ofList (decodeLossy bytes)

@[simp]
theorem encode_nil : encode [] = [] := rfl

@[simp]
theorem encode_cons (c : Char) (rest : List Char) :
    encode (c :: rest) = String.utf8EncodeChar c ++ encode rest := rfl

@[simp]
theorem encode_append (first second : List Char) :
    encode (first ++ second) = encode first ++ encode second := by
  simp [encode]

end Utf8

end DeviceGateway
