/-
# Powers

The powers of the two bases between which numbers are converted.
-/

namespace DeviceGateway.Decimal

/-- A power of two. -/
def twoTo (exponent : Nat) : Nat := Nat.pow 2 exponent

/-- A power of ten. -/
def tenTo (exponent : Nat) : Nat := Nat.pow 10 exponent

end DeviceGateway.Decimal
