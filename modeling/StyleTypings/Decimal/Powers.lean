/-!
# Powers of two and of ten

The scales of binary and decimal numbers, as functions of the exponent alone.
-/

namespace StyleTypings

/-- Two to the power of `n`. -/
def twoTo (n : Nat) : Nat := Nat.pow 2 n

/-- Ten to the power of `n`. -/
def tenTo (n : Nat) : Nat := Nat.pow 10 n

end StyleTypings
