/-!
# Decimal numbers of 96 bits

A `Decimal` is a sign, a mantissa below `2 ^ 96` and a scale of at most 28: it stands for
`± mantissa / 10 ^ scale`. The same number can have several forms (`1` and `1.00`), and zero can
carry a minus sign, so `Decimal.same` compares numbers where `=` compares forms.

`Decimal.signed` is the mantissa with its sign; `Decimal.le` and `Decimal.same` bring two mantissas
to a common scale and compare those, so that no digit is lost.

`Decimal.truncate` drops the fraction and `Decimal.round` keeps a given number of fraction digits,
a half going away from zero. `Decimal.round_scale_le` and `Decimal.truncate_scale` give the scales
of the results.
-/

namespace TypedTable

/-- The least natural number that is too large to be a mantissa. -/
def Decimal.limit : Nat := Nat.pow 2 96

theorem Decimal.limit_eq : limit = 79228162514264337593543950336 := by decide

theorem Decimal.limit_pos : 0 < limit := by decide

/-- The most fraction digits a decimal can have. -/
def Decimal.maxScale : Nat := 28

/-- A decimal number: `± mantissa / 10 ^ scale`. -/
structure Decimal where
  /-- Whether the number is written with a minus sign; zero may be. -/
  negative : Bool
  /-- The digits of the number without its point. -/
  mantissa : Nat
  /-- The number of digits after the point. -/
  scale : Nat
  mantissa_lt : mantissa < Decimal.limit
  scale_le : scale ≤ Decimal.maxScale
deriving DecidableEq

namespace Decimal

/-- A decimal from its parts; a zero has no sign. -/
def ofParts (negative : Bool) (mantissa scale : Nat) (hm : mantissa < limit)
    (hs : scale ≤ maxScale) : Decimal :=
  ⟨negative && mantissa != 0, mantissa, scale, hm, hs⟩

/-- Zero, with no fraction digit and no sign. -/
def zero : Decimal := ⟨false, 0, 0, limit_pos, Nat.zero_le _⟩

/-- An integer of at most 64 bits as a decimal. -/
def ofInt64 (n : Int64) : Decimal :=
  ofParts (n < 0) n.toInt.natAbs 0
    (by
      have h₁ := n.le_toInt
      have h₂ := n.toInt_lt
      have := limit_eq
      omega)
    (Nat.zero_le _)

/-- The mantissa with the number's sign. -/
def signed (d : Decimal) : Int := if d.negative then -(d.mantissa : Int) else d.mantissa

/-- Whether the number is zero. -/
def isZero (d : Decimal) : Bool := d.mantissa == 0

/-- The number with the other sign. -/
def negate (d : Decimal) : Decimal := { d with negative := !d.negative }

/-- Whether two decimals are the same number, whatever their scales. -/
def same (a b : Decimal) : Bool :=
  a.signed * Nat.pow 10 b.scale == b.signed * Nat.pow 10 a.scale

/-- Whether one number is at most another. -/
def le (a b : Decimal) : Bool :=
  a.signed * Nat.pow 10 b.scale ≤ b.signed * Nat.pow 10 a.scale

/-- The number without its fraction. The sign stays, also on a zero. -/
def truncate (d : Decimal) : Decimal :=
  ⟨d.negative, d.mantissa / Nat.pow 10 d.scale, 0,
    Nat.lt_of_le_of_lt (Nat.div_le_self ..) d.mantissa_lt, Nat.zero_le _⟩

/-- A quotient by a power of ten, rounded to nearest, a half upwards. -/
def quotient (m k : Nat) : Nat :=
  if Nat.pow 10 k ≤ 2 * (m % Nat.pow 10 k) then m / Nat.pow 10 k + 1 else m / Nat.pow 10 k

/-- A rounded quotient of a mantissa is a mantissa again: dividing by at least ten makes room for
the one that rounding may add. -/
theorem quotient_lt {m k : Nat} (hm : m < limit) (hk : 0 < k) : quotient m k < limit := by
  have h10 : Nat.pow 10 1 ≤ Nat.pow 10 k := Nat.pow_le_pow_right (by decide) hk
  have hdiv : m / Nat.pow 10 k ≤ m / 10 := Nat.div_le_div_left h10 (by decide)
  have := limit_eq
  unfold quotient
  split <;> omega

/-- The number rounded to at most `places` fraction digits, a half going away from zero. A number
that has no more digits than that is left in its form; a rounded zero has no sign. -/
def round (d : Decimal) (places : Nat) : Decimal :=
  if h : d.scale ≤ places then d
  else if d.mantissa = 0 then
    ⟨d.negative, 0, places, limit_pos, Nat.le_trans (by omega) d.scale_le⟩
  else
    ofParts d.negative (quotient d.mantissa (d.scale - places)) places
      (quotient_lt d.mantissa_lt (by omega)) (Nat.le_trans (by omega) d.scale_le)

@[simp] theorem truncate_scale (d : Decimal) : d.truncate.scale = 0 := rfl

/-- Rounding to `places` digits leaves at most that many. -/
theorem round_scale_le (d : Decimal) (places : Nat) : (d.round places).scale ≤ places := by
  unfold round ofParts
  split
  · assumption
  · split <;> simp

end Decimal

end TypedTable
