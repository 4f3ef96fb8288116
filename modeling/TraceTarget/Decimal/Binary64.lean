/-!
# The nearest binary number

A number written in decimal is kept as `m · 2 ^ q` with `m` below 2 ^ 53, the nearest such number
that has `q ≥ -1074`; of two that are equally near, the one with even `m`. Everything is computed
in whole numbers, so each rounding is exact.

- `Binary`: the magnitude `mantissa · 2 ^ exponent`.
- `roundDiv`: a quotient rounded to the nearest whole number, a half going to the even neighbour.
- `Binary.nearest`: the number nearest to a quotient, unless that is too large.
- `Binary.ofDecimal`: the same for `digits · 10 ^ scale`.
-/

namespace TraceTarget.Decimal

/-- The magnitude `mantissa · 2 ^ exponent`. -/
structure Binary where
  mantissa : Nat
  exponent : Int
  deriving DecidableEq, Repr

/-- A quotient rounded to the nearest whole number; a half goes to the even neighbour. -/
def roundDiv (num den : Nat) : Nat :=
  let q := num / den
  let twice := 2 * (num % den)
  if twice < den then q
  else if twice > den then q + 1
  else if q % 2 = 0 then q else q + 1

namespace Binary

/-- The smallest exponent. -/
def minExponent : Int := -1074

/-- The largest exponent. -/
def maxExponent : Int := 971

/-- The bound that every mantissa stays below. -/
def mantissaBound : Nat := Nat.pow 2 53

/-- Numerator and denominator of `num / den` in units of `2 ^ e`. -/
def inUnits (num den : Nat) (e : Int) : Nat × Nat :=
  if 0 ≤ e then (num, den * Nat.pow 2 e.toNat) else (num * Nat.pow 2 (-e).toNat, den)

/-- The exponent in whose units a quotient has 53 binary digits before the point, as far as the
range of exponents allows. The estimate from the lengths of `num` and `den` is at most one too
large. -/
def exponentFor (num den : Nat) : Int :=
  let estimate : Int := (Nat.log2 num : Int) - (Nat.log2 den : Int) - 52
  let (n, d) := inUnits num den estimate
  max (if 2 * (n / d) < mantissaBound then estimate - 1 else estimate) minExponent

/-- The number nearest to `num / den`, or nothing when that is too large. -/
def nearest (num den : Nat) : Option Binary :=
  if num = 0 then some ⟨0, minExponent⟩
  else
    let e := exponentFor num den
    let (n, d) := inUnits num den e
    let m := roundDiv n d
    let b : Binary := if m < mantissaBound then ⟨m, e⟩ else ⟨m / 2, e + 1⟩
    if b.exponent ≤ maxExponent then some b else none

/-- The number nearest to `digits · 10 ^ scale`, or nothing when that is too large. Scales far
outside the range are settled without computing the power. -/
def ofDecimal (digits : Nat) (scale : Int) : Option Binary :=
  if digits = 0 then nearest 0 1
  else
    let size : Int := (Nat.toDigits 10 digits).length + scale
    if size > 400 then none
    else if size < -400 then nearest 0 1
    else if 0 ≤ scale then nearest (digits * Nat.pow 10 scale.toNat) 1
    else nearest digits (Nat.pow 10 (-scale).toNat)

end Binary

end TraceTarget.Decimal
