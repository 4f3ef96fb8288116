import TraceTarget.Decimal.Binary64
import TraceTarget.Text.Numeral

/-!
# The fewest digits that read back

A binary number is shown by the fewest decimal digits from which the same number is read again, and
among those by the ones nearest to it; of two that are equally near, by the larger. The numbers that
are read as `m · 2 ^ q` lie between its two midpoints with the neighbours, and the midpoints belong
to it exactly when `m` is even.

- `Interval`: the numbers that are read as a given binary number.
- `shortest`: the digits and the power of ten of the last one.
- `positional`: digits written out with a point and without an exponent.
- `compact`: the same, with an exponent for numbers that are far from one.
-/

namespace TraceTarget.Decimal

/-- The numbers read as `value`, all four in the unit `1 / den`. -/
structure Interval where
  low : Nat
  value : Nat
  high : Nat
  den : Nat
  closed : Bool
  deriving Repr

/-- The numbers that are read as the given one. Below a power of two the neighbour is only half as
far away, unless the exponent is already the smallest. -/
def Binary.interval (b : Binary) : Interval :=
  let narrow := b.mantissa = mantissaBound / 2 ∧ b.exponent > minExponent
  let quarters := 4 * b.mantissa
  let scale := b.exponent - 2
  let (up, den) := if 0 ≤ scale then (Nat.pow 2 scale.toNat, 1) else (1, Nat.pow 2 (-scale).toNat)
  { low := (quarters - if narrow then 1 else 2) * up
    value := quarters * up
    high := (quarters + 2) * up
    den
    closed := b.mantissa % 2 = 0 }

/-- Whether `digits · 10 ^ scale` lies in the interval. -/
def Interval.holds (i : Interval) (digits : Nat) (scale : Int) : Bool :=
  let (d, by') := if 0 ≤ scale then (digits * Nat.pow 10 scale.toNat * i.den, 1)
    else (digits * i.den, Nat.pow 10 (-scale).toNat)
  if i.closed then i.low * by' ≤ d ∧ d ≤ i.high * by' else i.low * by' < d ∧ d < i.high * by'

/-- On the grid of the multiples of `10 ^ scale`, the point of the interval that is nearest to the
value, if the grid has a point in it. The value's two neighbours on the grid are the only points
that matter. -/
def Interval.onGrid (i : Interval) (scale : Int) : Option Nat :=
  let (num, den) := if 0 ≤ scale then (i.value, i.den * Nat.pow 10 scale.toNat)
    else (i.value * Nat.pow 10 (-scale).toNat, i.den)
  let below := num / den
  match i.holds below scale, i.holds (below + 1) scale with
  | true, true => some (if 2 * (num % den) < den then below else below + 1)
  | true, false => some below
  | false, true => some (below + 1)
  | false, false => none

/-- The first grid with a point in the interval, from coarse to fine. -/
def Interval.search (i : Interval) : Nat → Int → Nat × Int
  | 0, scale => ((i.onGrid scale).getD 0, scale)
  | fuel + 1, scale =>
    match i.onGrid scale with
    | some (digits + 1) => (digits + 1, scale)
    | _ => i.search fuel (scale - 1)

/-- The power of ten of the first digit, or one more. -/
def Interval.magnitude (i : Interval) : Int :=
  let whole := i.value / i.den
  if whole = 0 then 1 - ((Nat.toDigits 10 (i.den / i.value)).length : Int)
  else (Nat.toDigits 10 whole).length

/-- The digits of a number and the power of ten of the last one. At most 17 digits are needed; one
grid more is tried because the magnitude may be one too large, and one for the finest grid. -/
def Binary.shortest (b : Binary) : Nat × Int :=
  if b.mantissa = 0 then (0, 0) else b.interval.search 19 b.interval.magnitude

/-- `digits · 10 ^ scale` written out with a point, at least one digit on each side of it, and
without an exponent. -/
def positional (digits : Nat) (scale : Int) : List Char :=
  let ds := Nat.toDigits 10 digits
  let point : Int := ds.length + scale
  if 0 ≤ scale then ds ++ List.replicate scale.toNat '0' ++ ['.', '0']
  else if 0 < point then ds.take point.toNat ++ '.' :: ds.drop point.toNat
  else '0' :: '.' :: (List.replicate (-point).toNat '0' ++ ds)

/-- `digits · 10 ^ scale` written with a point if it is at least a hundred thousandth and has at
most 16 digits before the point, and else with an exponent after its first digit and, if there are
more, a point and the others. -/
def compact (digits : Nat) (scale : Int) : List Char :=
  let ds := Nat.toDigits 10 digits
  let point : Int := ds.length + scale
  if -5 < point ∧ point ≤ 16 then positional digits scale
  else
    ds.take 1 ++ (if ds.length = 1 then [] else '.' :: ds.drop 1) ++
      'e' :: (Text.signed (point - 1)).toList

/-- A binary number written with the fewest digits. -/
def Binary.text (b : Binary) : List Char :=
  let (digits, scale) := b.shortest
  positional digits scale

/-- A binary number written with the fewest digits, with an exponent if it is far from one. -/
def Binary.compactText (b : Binary) : List Char :=
  let (digits, scale) := b.shortest
  compact digits scale

end TraceTarget.Decimal
