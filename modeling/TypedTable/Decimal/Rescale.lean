import TypedTable.Decimal.Basic
/-!
# Bringing a decimal to a scale

`fit? n dropped scale` is the decimal of `n / 10 ^ (dropped + scale)` with as many of `scale`
fraction digits as there is room for, a half going to the even neighbour. `addAt?` adds to a decimal
in that way, so that a sum loses digits only when the mantissa is full.

`rescale` shows a decimal with a given number of fraction digits: missing digits are filled up with
zeros while there is room, and those beyond are rounded away, a half going away from zero.
-/

namespace TypedTable.Decimal

/-- A quotient by a power of ten, rounded to nearest, a half to the even neighbour. -/
def quotientEven (m k : Nat) : Nat :=
  let unit := Nat.pow 10 k
  let q := m / unit
  if unit < 2 * (m % unit) ∨ (unit = 2 * (m % unit) ∧ q % 2 = 1) then q + 1 else q

/-- The decimal of `n / 10 ^ (dropped + scale)`, with at most `scale` fraction digits. Fails only if
there is no room for the digits before the point. -/
def fit? (n dropped : Nat) : (scale : Nat) → scale ≤ maxScale → Option Decimal
  | 0, hs => if hm : quotientEven n dropped < limit then some ⟨false, _, 0, hm, hs⟩ else none
  | scale + 1, hs =>
    if hm : quotientEven n dropped < limit then some ⟨false, _, scale + 1, hm, hs⟩
    else fit? n (dropped + 1) scale (Nat.le_of_succ_le hs)

/-- A magnitude of at most `place` fraction digits with `n / 10 ^ place` added. -/
def addAt? (d : Decimal) (n place : Nat) (h : place ≤ maxScale) : Option Decimal :=
  fit? (d.mantissa * Nat.pow 10 (place - d.scale) + n) 0 place h

/-- Writes zeros at the end of the fraction, at most `n` and as long as there is room. -/
def pad (d : Decimal) : Nat → Decimal
  | 0 => d
  | n + 1 =>
    if h : d.mantissa * 10 < limit ∧ d.scale < maxScale then
      pad ⟨d.negative, d.mantissa * 10, d.scale + 1, h.1, h.2⟩ n
    else d

/-- The number shown with `scale` fraction digits, if there is room for them. The sign stays, also
on a zero. -/
def rescale (d : Decimal) (scale : Nat) (hs : scale ≤ maxScale) : Decimal :=
  if d.mantissa = 0 then ⟨d.negative, 0, scale, limit_pos, hs⟩
  else if h : scale < d.scale then
    ⟨d.negative, quotient d.mantissa (d.scale - scale), scale,
      quotient_lt d.mantissa_lt (Nat.sub_pos_of_lt h), hs⟩
  else d.pad (scale - d.scale)

end TypedTable.Decimal
