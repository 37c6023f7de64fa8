import TypedTable.Double.Basic
import TypedTable.Text.Digits
/-!
# The shortest text of a binary floating-point number

A finite number is written with the fewest significant digits that still read back as that number,
and of the shortest texts with the one nearest to it, the upper one of two equally near. The digits
are always written positionally, with no exponent, no point behind an integer and a minus sign on
the negative zero.

The numbers that round to `m * 2 ^ q` form an interval around it. For each digit count from 1 to 17
the search tries the two neighbours of the number on the grid with that many digits, in exact
arithmetic on naturals; the first grid with a neighbour inside the interval gives the text.
-/

namespace TypedTable.Double

/-- The numbers that a reader rounds to a finite number: from `low` to `high` around `value`, each
over `unit`. The ends belong to it if `closed`. -/
structure Interval where
  low : Nat
  value : Nat
  high : Nat
  unit : Nat
  closed : Bool

/-- The rounding interval of a finite number. Below a power of two the next number is only half as
far away as above it. -/
def interval (x : Double) : Interval :=
  let m := x.significand
  let up := Nat.pow 2 (x.exponent - 2).toNat
  let below := if x.fraction = 0 ∧ 1 < x.exponentField then 1 else 2
  { low := (4 * m - below) * up
    value := 4 * m * up
    high := (4 * m + 2) * up
    unit := Nat.pow 2 (2 - x.exponent).toNat
    closed := m % 2 == 0 }

/-- Whether `c * 10 ^ k` lies in the interval. -/
def Interval.contains (i : Interval) (c : Nat) (k : Int) : Bool :=
  let point := c * Nat.pow 10 k.toNat * i.unit
  let grow := Nat.pow 10 (-k).toNat
  if i.closed then i.low * grow ≤ point && point ≤ i.high * grow
  else i.low * grow < point && point < i.high * grow

/-- The largest multiple of `10 ^ k` that is not above the value, as a multiple. -/
def Interval.floor (i : Interval) (k : Int) : Nat :=
  i.value * Nat.pow 10 (-k).toNat / (i.unit * Nat.pow 10 k.toNat)

/-- Whether the value is at least as near to `(c + 1) * 10 ^ k` as to `c * 10 ^ k`. -/
def Interval.nearerUp (i : Interval) (c : Nat) (k : Int) : Bool :=
  (2 * c + 1) * Nat.pow 10 k.toNat * i.unit ≤ 2 * i.value * Nat.pow 10 (-k).toNat

/-- The neighbour of the value on the grid `10 ^ k` that lies in the interval, the nearer if both
do and the upper one on a tie. -/
def Interval.onGrid? (i : Interval) (k : Int) : Option Nat :=
  let c := i.floor k
  match i.contains c k, i.contains (c + 1) k with
  | true, true => some (if i.nearerUp c k then c + 1 else c)
  | true, false => some c
  | false, true => some (c + 1)
  | false, false => none

/-- The number of digits before the point of `value / unit`; for a value below one, minus the number
of zeros behind the point. -/
def Interval.magnitude (i : Interval) : Int :=
  if i.unit ≤ i.value then (Text.natural (i.value / i.unit)).length
  else
    -- `unit / value` lies in `[10 ^ (d - 1), 10 ^ d)` for its digit count `d`
    let d := (Text.natural (i.unit / i.value)).length
    if i.value * Nat.pow 10 (d - 1) = i.unit then 2 - (d : Int) else 1 - (d : Int)

/-- The first grid, from coarse to fine, that has a point in the interval. -/
def Interval.search (i : Interval) (magnitude : Int) : Nat → Nat → Nat × Int
  | 0, count => (i.floor (magnitude - count), magnitude - count)
  | fuel + 1, count =>
    let k := magnitude - count
    match i.onGrid? k with
    | some c => (c, k)
    | none => i.search magnitude fuel (count + 1)

/-- The shortest digits `c` and exponent `k` with `c * 10 ^ k` in the interval of a finite number
that is not zero. Seventeen digits always suffice. -/
def shortest (x : Double) : Nat × Int :=
  let i := x.interval
  i.search i.magnitude 17 1

/-- `c * 10 ^ k` written positionally, without zeros behind the last digit of a fraction. -/
def positional (c : Nat) (k : Int) : List Char :=
  if 0 ≤ k then Text.natural c ++ List.replicate k.toNat '0'
  else
    let places := (-k).toNat
    let digits := Text.padded (places + 1) c
    let whole := digits.take (digits.length - places)
    let fraction := digits.drop (digits.length - places)
    let kept := (fraction.reverse.dropWhile (· == '0')).reverse
    if kept.isEmpty then whole else whole ++ '.' :: kept

/-- The number written out. -/
def characters (x : Double) : List Char :=
  if x.isNaN then "NaN".toList
  else
    let magnitude :=
      if !x.isFinite then "inf".toList
      else if x.isZero then ['0']
      else
        let (c, k) := x.shortest
        positional c k
    if x.negative then '-' :: magnitude else magnitude

/-- The number written out, as a text. -/
def text (x : Double) : String := String.ofList x.characters

end TypedTable.Double
