import TypedTable.Decimal.Rescale
import TypedTable.Wire.Bytes
/-!
# Decimals on the wire

A decimal travels in groups of four digits: how many groups there are, the weight of the first one
(a power of ten thousand), the sign, the number of fraction digits, and the groups. The point falls
between two groups, so the fraction is filled up with zeros to whole groups; groups of zeros at the
end of a fraction may be left out.

Reading takes the groups before the point as one number (`Groups.whole?`), adds the groups behind it
one at a time (`addFraction?`), and shows the sum with the number of fraction digits that the sender
asked for.
-/

namespace TypedTable.Wire

/-- A decimal in groups: `± (groups as digits of base ten thousand) * 10000 ^ (weight - count + 1)`,
shown with `scale` fraction digits. -/
structure Groups where
  weight : Int
  negative : Bool
  scale : Nat
  digits : List Nat
deriving DecidableEq

/-- The digits of a number in base ten thousand; none for zero. -/
def groupsOf (n : Nat) : List Nat :=
  if _h : n = 0 then [] else groupsOf (n / 10000) ++ [n % 10000]
termination_by n

/-- A list without the zeros at its end. -/
def dropTrailingZeros (l : List Nat) : List Nat := (l.reverse.dropWhile (· == 0)).reverse

/-- The groups of a decimal. A zero has none and is shown without fraction. If there are groups
before the point, groups of zeros at the end of the fraction are left out. -/
def Groups.ofDecimal (d : Decimal) : Groups :=
  if d.isZero then ⟨0, false, 0, []⟩
  else
    let fractionGroups := (d.scale + 3) / 4
    let digits := groupsOf (d.mantissa * Nat.pow 10 (4 * fractionGroups - d.scale))
    let wholeGroups := digits.length - fractionGroups
    { weight := digits.length - fractionGroups - 1
      negative := d.negative
      scale := d.scale
      digits :=
        if 0 < wholeGroups then
          digits.take wholeGroups ++ dropTrailingZeros (digits.drop wholeGroups)
        else digits }

/-- The number of groups before the point, those included that are left out. -/
def Groups.wholeCount (g : Groups) : Nat := (g.weight + 1).toNat

/-- The number before the point. Groups that are left out there are zeros, and there must be room
for these zeros too. -/
def Groups.whole? (g : Groups) : Option Decimal :=
  let groups := g.digits.take g.wholeCount
  let zeros := Nat.pow 10 (4 * (g.wholeCount - groups.length))
  let n := groups.foldl (fun n digit => n * 10000 + digit) 0 * zeros
  if h : zeros < Decimal.limit ∧ n < Decimal.limit then
    some ⟨false, n, 0, h.2, Nat.zero_le _⟩
  else none

/-- Adds groups of a fraction, the last digit of the first one at the given place behind the point.
The group that begins behind the last place of a decimal rounds it; what follows is nothing. -/
def addFraction? (d : Decimal) (place : Nat) : List Nat → Option Decimal
  | [] => some d
  | digit :: rest =>
    let sum :=
      if h : place ≤ Decimal.maxScale then d.addAt? digit place h
      else if place = Decimal.maxScale + 4 ∧ 5000 ≤ digit then
        d.addAt? 1 Decimal.maxScale (Nat.le_refl _)
      else some d
    sum.bind (addFraction? · (place + 4) rest)

/-- The place of the last digit of the first group behind the point. -/
def Groups.firstPlace (g : Groups) : Nat := 4 * (1 + (-g.weight - 1).toNat)

/-- The decimal of groups, with the fraction digits that it is shown with. -/
def Groups.decimal? (g : Groups) : Option Decimal := do
  let whole ← g.whole?
  let d ← addFraction? whole g.firstPlace (g.digits.drop g.wholeCount)
  return { d with negative := g.negative }.rescale (min g.scale Decimal.maxScale)
    (Nat.min_le_right ..)

/-- The word that marks a negative number. -/
def negativeMark : Nat := 0x4000

/-- The least of the words that mark what is not a finite number. -/
def specialMark : Nat := 0xC000

/-- The bytes of groups. -/
def Groups.encode (g : Groups) : Bytes :=
  bigEndian 2 g.digits.length ++ signedBigEndian 2 g.weight ++
    bigEndian 2 (if g.negative then negativeMark else 0) ++ bigEndian 2 g.scale ++
    g.digits.flatMap (bigEndian 2)

/-- Reads `n` words. -/
def words? : Nat → Bytes → Option (List Nat)
  | 0, _ => some []
  | n + 1, bytes => do
    let (w, rest) ← word? bytes
    return w :: (← words? n rest)

/-- Reads groups. A mark of what is not a finite number is refused; any other mark than that of a
negative number stands for a positive one. -/
def Groups.decode? (bytes : Bytes) : Option Groups := do
  let (count, bytes) ← word? bytes
  let (weight, bytes) ← word? bytes
  let (sign, bytes) ← word? bytes
  let (scale, bytes) ← word? bytes
  let digits ← words? count bytes
  if sign < specialMark then
    some ⟨if weight < 0x8000 then weight else weight - 0x10000, sign = negativeMark, scale, digits⟩
  else none

end TypedTable.Wire
