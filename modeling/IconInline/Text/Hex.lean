/-!
# Hexadecimal digits

Digits of either case are read, as many as asked for.
-/

namespace IconInline.Text

/-- The value of a hexadecimal digit. -/
def hexDigit? (c : Char) : Option Nat :=
  if c.isDigit then some (c.toNat - 48)
  else if 'a' ≤ c ∧ c ≤ 'f' then some (c.toNat - 87)
  else if 'A' ≤ c ∧ c ≤ 'F' then some (c.toNat - 55)
  else none

/-- The number that the first `n` characters write in hexadecimal digits, behind digits of the
value `value`, and the rest. -/
def hexDigits? : (n value : Nat) → List Char → Option (Nat × List Char)
  | 0, value, cs => some (value, cs)
  | n + 1, value, c :: rest => (hexDigit? c).bind fun d => hexDigits? n (value * 16 + d) rest
  | _ + 1, _, [] => none

end IconInline.Text
