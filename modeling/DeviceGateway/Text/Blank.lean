/-
# Blank characters

The characters of the Unicode property White_Space, and what depends on them: whether a text is
blank, and a text without the blanks around it.  Component names and identifiers are refused when
they are blank; a level name is read without the blanks around it.  The table is that of the
property itself, which is larger than the set of blanks that programming languages usually skip.
-/

namespace DeviceGateway.Text

/-- Whether a character has the property White_Space. -/
def isBlank (c : Char) : Bool :=
  let n := c.toNat
  (0x09 ≤ n && n ≤ 0x0D) || n == 0x20 || n == 0x85 || n == 0xA0 || n == 0x1680 ||
    (0x2000 ≤ n && n ≤ 0x200A) || n == 0x2028 || n == 0x2029 || n == 0x202F || n == 0x205F ||
    n == 0x3000

/-- Whether a text holds blank characters only; the empty text does. -/
def isBlankText (text : String) : Bool :=
  text.toList.all isBlank

/-- A text without the blank characters at its two ends. -/
def trim (text : List Char) : List Char :=
  ((text.dropWhile isBlank).reverse.dropWhile isBlank).reverse

/-- A text is not blank exactly when one of its characters is not. -/
theorem isBlankText_eq_false_iff {text : String} :
    isBlankText text = false ↔ ∃ c ∈ text.toList, isBlank c = false := by
  simp [isBlankText]

end DeviceGateway.Text
