import IconInline.Number.Binary64

/-!
# The shortest decimal text of a number

Among the decimals that round to a given number, the one with the fewest digits is written; of
several with that many digits, the nearest. Exponents from -5 to 15 are written positionally,
with at least one digit behind the point.
-/

namespace IconInline.Binary64

/-- Rounds to the number `x`: lies within half a step of it, or on the edge if the mantissa is
even. The decimal is `digits * 10 ^ exponent`. -/
def isRead (x : Binary64) (digits : Nat) (exponent : Int) : Bool :=
  let (num, den) := x.fraction
  -- all quantities are brought to the common denominator `4 * den * 10 ^ negative exponent`
  let down := if exponent < 0 then tenTo exponent.natAbs else 1
  let up := if exponent < 0 then 1 else tenTo exponent.natAbs
  let value := 4 * num * down
  let step := if x.exponent < 0 then 1 * down else twoTo x.exponent.natAbs * down
  let below := if x.mantissa = twoTo 52 ∧ -1074 < x.exponent then step else 2 * step
  let candidate := 4 * den * digits * up
  if x.mantissa % 2 = 0 then value - below ≤ candidate && candidate ≤ value + 2 * step
  else value - below < candidate && candidate < value + 2 * step

/-- The whole part of the number divided by `10 ^ k`, and twice the rest compared to one. -/
def gridBelow (x : Binary64) (k : Int) : Nat × Ordering :=
  let (num, den) := x.fraction
  let (n, d) := if k < 0 then (num * tenTo k.natAbs, den) else (num, den * tenTo k.natAbs)
  (n / d, compare (2 * (n % d)) d)

/-- The number of digits before the point, negative if zeros follow it. -/
def magnitude (x : Binary64) : Int :=
  let (num, den) := x.fraction
  if den ≤ num then (Nat.toDigits 10 (num / den)).length
  else
    let up := (List.range 330).find? (fun k => den ≤ num * tenTo k)
    1 - (up.getD 0 : Nat)

/-- The decimal above `low`: a carry into a further digit leaves a one and zeros. -/
def nextUp (count low : Nat) (k : Int) : Nat × Int :=
  if low + 1 = tenTo count then (1, k + count) else (low + 1, k)

/-- Tries the decimals of `count` digits, then of one digit more. -/
def shortestFrom (x : Binary64) : (fuel count : Nat) → Nat × Int
  | 0, count => ((gridBelow x (magnitude x - count)).1, magnitude x - count)
  | fuel + 1, count =>
    let k := magnitude x - count
    let (low, side) := gridBelow x k
    match isRead x low k, isRead x (low + 1) k with
    | true, true => if side = .gt then nextUp count low k else (low, k)
    | true, false => (low, k)
    | false, true => nextUp count low k
    | false, false => shortestFrom x fuel (count + 1)

/-- Digits and exponent of the shortest decimal of a number that is not zero. -/
def shortest (x : Binary64) : Nat × Int := shortestFrom x 17 1

/-- A decimal exponent behind its mark: a sign and at least two digits. -/
def exponentText (e : Int) : String :=
  let digits := toString e.natAbs
  (if e < 0 then "e-" else "e+") ++ (if digits.length < 2 then "0" ++ digits else digits)

/-- Zeros in a row. -/
def zeros (n : Nat) : List Char := List.replicate n '0'

/-- The text of a non-negative number. -/
def magnitudeText (x : Binary64) : String :=
  if x.isZero then "0.0"
  else
    let (d, k) := shortest x
    let digits := (toString d).toList
    let point : Int := digits.length + k
    if 0 ≤ k ∧ point ≤ 16 then String.ofList (digits ++ zeros k.natAbs ++ ['.', '0'])
    else if 0 < point ∧ point ≤ 16 then
      String.ofList (digits.take point.natAbs ++ '.' :: digits.drop point.natAbs)
    else if -5 < point ∧ point ≤ 0 then
      String.ofList ('0' :: '.' :: zeros point.natAbs ++ digits)
    else
      let rest := digits.drop 1
      String.ofList (digits.take 1 ++ (if rest.isEmpty then [] else '.' :: rest))
        ++ exponentText (point - 1)

/-- The shortest decimal text that reads back as the number. -/
def text (x : Binary64) : String := (if x.negative then "-" else "") ++ magnitudeText x

end IconInline.Binary64
