/-
# Words

The bounds of whole numbers that fit a word of thirty-two or sixty-four bits, with and without a sign.
Counts, intervals and versions come from documents and topics in which such a number is a numeral, and
one that fits no word is refused.
-/

namespace DeviceGateway.Word

/-- The greatest number of thirty-two bits. -/
abbrev greatest32 : Nat := 0xFFFFFFFF

/-- The greatest number of sixty-four bits. -/
abbrev greatest64 : Nat := 0xFFFFFFFFFFFFFFFF

/-- How many numbers sixty-four bits hold. -/
abbrev count64 : Nat := 0x10000000000000000

/-- How many negative numbers sixty-four bits hold. -/
abbrev half64 : Nat := 0x8000000000000000

/-- Whether a number fits sixty-four bits with sign. -/
def fitsSigned (value : Int) : Bool := -(half64 : Int) ≤ value && value < half64

theorem fitsSigned_iff (value : Int) :
    fitsSigned value = true ↔ -(half64 : Int) ≤ value ∧ value < half64 := by
  simp [fitsSigned]

end DeviceGateway.Word
