import TypedTable.Decimal.Basic
import TypedTable.Text.Digits
/-!
# The text of a decimal

A decimal is written with as many fraction digits as its scale, at least one digit before the
point, no point if there is no fraction, and a minus sign whenever the sign is set, on a zero too:
`12.30`, `0.05`, `-0`.
-/

namespace TypedTable.Decimal

/-- The digits of a number of magnitude `mantissa / 10 ^ scale`, with a point if `scale` is not
zero. -/
def unsignedText (mantissa scale : Nat) : List Char :=
  let digits := Text.padded (scale + 1) mantissa
  let whole := digits.take (digits.length - scale)
  let fraction := digits.drop (digits.length - scale)
  if scale = 0 then digits else whole ++ '.' :: fraction

/-- The decimal written out. -/
def characters (d : Decimal) : List Char :=
  if d.negative then '-' :: unsignedText d.mantissa d.scale else unsignedText d.mantissa d.scale

/-- The decimal written out, as a text. -/
def text (d : Decimal) : String := String.ofList d.characters

end TypedTable.Decimal
