import IconInline.Number.Power

/-!
# Binary floating point numbers

A finite number of the 64-bit binary format is a sign, a whole mantissa below `2^53` and a power
of two. `Binary64.round?` takes a fraction to the nearest such number, a tie to the one with an
even mantissa; products and quotients are rounded once.
-/

namespace IconInline

/-- A finite binary floating point number: `mantissa * 2 ^ exponent` with a sign. -/
structure Binary64 where
  negative : Bool
  mantissa : Nat
  exponent : Int
  deriving DecidableEq, Repr

namespace Binary64

/-- Zero with a sign. -/
def zero (negative : Bool) : Binary64 := ⟨negative, 0, -1074⟩

/-- Is a zero of either sign. -/
def isZero (x : Binary64) : Bool := x.mantissa == 0

/-- The same number with the other sign. -/
def negate (x : Binary64) : Binary64 := { x with negative := !x.negative }

/-- Numerator and denominator of `num / den` after division by `2 ^ e`. -/
def scaled (num den : Nat) (e : Int) : Nat × Nat :=
  if e < 0 then (num * twoTo e.natAbs, den) else (num, den * twoTo e.natAbs)

/-- The power of two at which the whole part of a fraction has 53 binary digits, or the least
power there is. -/
def scaleOf (num den : Nat) : Int :=
  let guess : Int := max ((Nat.log2 num : Int) - Nat.log2 den - 52) (-1074)
  let (n, d) := scaled num den guess
  if n / d < twoTo 52 then max (guess - 1) (-1074) else guess

/-- The non-negative number nearest to a fraction, unless it is too large. -/
def round? (num den : Nat) : Option Binary64 :=
  if num = 0 then some (zero false)
  else
    let e := scaleOf num den
    let (n, d) := scaled num den e
    let q := n / d
    let r := n % d
    let m := if 2 * r > d ∨ (2 * r = d ∧ q % 2 = 1) then q + 1 else q
    let (m, e) := if m = twoTo 53 then (twoTo 52, e + 1) else (m, e)
    if e > 971 then none else some ⟨false, m, e⟩

/-- The absolute value as a fraction. -/
def fraction (x : Binary64) : Nat × Nat :=
  if x.exponent < 0 then (x.mantissa, twoTo x.exponent.natAbs)
  else (x.mantissa * twoTo x.exponent.natAbs, 1)

/-- The rounded product of two non-negative numbers, unless it is too large. -/
def mul? (x y : Binary64) : Option Binary64 :=
  round? (x.fraction.1 * y.fraction.1) (x.fraction.2 * y.fraction.2)

/-- The rounded quotient of two non-negative numbers, unless it is too large. -/
def div? (x y : Binary64) : Option Binary64 :=
  round? (x.fraction.1 * y.fraction.2) (x.fraction.2 * y.fraction.1)

/-- The number nearest to a natural number below `2^64`. -/
def ofNat (n : Nat) : Binary64 := (round? n 1).getD (zero false)

/-- The number nearest to a power of ten up to `10^308`. -/
def powerOfTen (n : Nat) : Binary64 := ofNat (tenTo n)

/-- Divides by `10 ^ n` in steps of at most `10 ^ 308`. -/
def divPowerOfTen : Nat → Binary64 → Nat → Binary64
  | 0, x, _ => x
  | fuel + 1, x, n =>
    if x.isZero then x
    else if n ≤ 308 then (div? x (powerOfTen n)).getD x
    else divPowerOfTen fuel ((div? x (powerOfTen 308)).getD x) (n - 308)

/-- The number written `significand * 10 ^ exponent`, scaled by at most a few rounded steps. -/
def ofDecimal? (significand : Nat) (exponent : Int) : Option Binary64 :=
  let x := ofNat significand
  if 0 ≤ exponent then
    if exponent ≤ 308 then mul? x (powerOfTen exponent.natAbs)
    else if x.isZero then some x else none
  else some (divPowerOfTen (exponent.natAbs / 308 + 1) x exponent.natAbs)

end Binary64

end IconInline
