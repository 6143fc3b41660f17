/-!
# Powers of two and ten

The units in which binary and decimal numbers are scaled.
-/

namespace IconInline

/-- Two to the power `n`. -/
def twoTo (n : Nat) : Nat := Nat.pow 2 n

/-- Ten to the power `n`. -/
def tenTo (n : Nat) : Nat := Nat.pow 10 n

end IconInline
