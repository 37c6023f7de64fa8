import TypedTable.Decimal.Basic
import TypedTable.Double.Basic
/-!
# The decimal of a binary floating-point number

A finite number `m * 2 ^ q` becomes a decimal of at most 15 or 16 significant digits:

1. the power of two is absorbed into a mantissa of 96 bits and a power of ten (`absorb`, `expand`),
   dropping low bits when the mantissa is full;
2. a positive power of ten is multiplied out, which fails for a number that is too large;
3. digits behind the 28th place are rounded away, one at a time;
4. while there is a fraction, the mantissa is cut, one digit at a time, to less than `2 ^ 52`, the
   precision that the format guarantees;
5. trailing zeros of the fraction are dropped.

Each step is a fold over a known number of rounds, so all of it is structural recursion.
-/

namespace TypedTable.Decimal

/-- A number `mantissa * 10 ^ exponent` in the making. -/
structure Scaled where
  mantissa : Nat
  exponent : Int
  mantissa_lt : mantissa < limit

/-- One round of dividing by two: `m / 2` is `5 * m / 10`, or `m / 2` outright if `m` is even or too
large to be multiplied by five. -/
def Scaled.halve (s : Scaled) : Scaled :=
  if h : s.mantissa % 2 = 1 ∧ s.mantissa * 5 < limit then
    ⟨s.mantissa * 5, s.exponent - 1, h.2⟩
  else ⟨s.mantissa / 2, s.exponent, Nat.lt_of_le_of_lt (Nat.div_le_self ..) s.mantissa_lt⟩

/-- One round of multiplying by two: `2 * m`, or `m / 5` with a power of ten if there is no room. -/
def Scaled.double (s : Scaled) : Scaled :=
  if h : 2 * s.mantissa < limit then ⟨2 * s.mantissa, s.exponent, h⟩
  else ⟨s.mantissa / 5, s.exponent + 1, Nat.lt_of_le_of_lt (Nat.div_le_self ..) s.mantissa_lt⟩

/-- Applies `f` a number of times. -/
def Scaled.times (f : Scaled → Scaled) : Nat → Scaled → Scaled
  | 0, s => s
  | n + 1, s => times f n (f s)

/-- The mantissa with `n` zeros behind it, if there is room. -/
def Scaled.pad? (s : Scaled) (n : Nat) : Option Scaled :=
  if h : s.mantissa * Nat.pow 10 n < limit then some ⟨s.mantissa * Nat.pow 10 n, s.exponent - n, h⟩
  else none

/-- A mantissa with a scale that may still be too large. -/
structure Fractional where
  mantissa : Nat
  scale : Nat
  mantissa_lt : mantissa < limit

/-- Drops the last fraction digit, rounding to nearest. -/
def Fractional.dropDigit (f : Fractional) : Fractional :=
  ⟨quotient f.mantissa 1, f.scale - 1, quotient_lt f.mantissa_lt (by decide)⟩

/-- Drops `n` digits one at a time; a mantissa that vanishes on the way has no scale. -/
def Fractional.dropDigits : Nat → Fractional → Fractional
  | 0, f => f
  | n + 1, f =>
    if f.mantissa / 10 = 0 then ⟨0, 0, limit_pos⟩ else dropDigits n f.dropDigit

/-- Drops digits while there is a fraction and the mantissa has more than 52 bits; `n` bounds the
number of digits. -/
def Fractional.cut : Nat → Fractional → Fractional
  | 0, f => f
  | n + 1, f => if 0 < f.scale ∧ Nat.pow 2 52 ≤ f.mantissa then cut n f.dropDigit else f

/-- Drops zeros at the end of the fraction; `n` bounds their number. -/
def Fractional.strip : Nat → Fractional → Fractional
  | 0, f => f
  | n + 1, f =>
    if 0 < f.scale ∧ f.mantissa % 10 = 0 then
      strip n
        ⟨f.mantissa / 10, f.scale - 1, Nat.lt_of_le_of_lt (Nat.div_le_self ..) f.mantissa_lt⟩
    else f

/-- A fraction brought to a scale that a decimal can have. -/
def Fractional.fit (f : Fractional) : Fractional :=
  f.dropDigits (f.scale - maxScale)

/-- The decimal of a fraction; one whose scale is still too large is none. A fraction that has become
zero keeps its sign. -/
def Fractional.decimal? (f : Fractional) (negative : Bool) : Option Decimal :=
  if h : f.scale ≤ maxScale then some ⟨negative, f.mantissa, f.scale, f.mantissa_lt, h⟩ else none

/-- The number `m * 2 ^ q` with the power of two absorbed. -/
def Scaled.ofBinary (m : Nat) (q : Int) (h : m < limit) : Scaled :=
  if 0 ≤ q then Scaled.times .double q.toNat ⟨m, 0, h⟩
  else Scaled.times .halve (-q).toNat ⟨m, 0, h⟩

/-- The decimal of a finite binary number that is not too large. A zero keeps its sign. -/
def ofDouble? (x : Double) : Option Decimal :=
  if !x.isFinite then none
  else if x.isZero then some { zero with negative := x.negative }
  else if h : x.significand < limit then
    let s := Scaled.ofBinary x.significand x.exponent h
    (s.pad? s.exponent.toNat).bind fun s =>
      let f := Fractional.fit ⟨s.mantissa, (-s.exponent).toNat, s.mantissa_lt⟩
      let f := f.cut f.scale
      (f.strip f.scale).decimal? x.negative
  else none

end TypedTable.Decimal
