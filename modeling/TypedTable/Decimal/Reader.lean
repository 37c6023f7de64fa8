import TypedTable.Decimal.Basic
import TypedTable.Text.Blank
import TypedTable.Text.Digits
/-!
# Reading a decimal

`plain?` reads a sign, digits and at most one point; an underscore may stand anywhere after the
first digit. The digits are taken as long as they fit a mantissa below `2 ^ 96` and a scale of at
most 28. The first one that does not fit decides the rounding, a half going up, and behind it only
digits and underscores may follow; before the point there is no rounding, and a number that is too
large is refused.

`scientific?` reads a plain number, the letter `e` and an exponent of magnitude at most 28. A
positive exponent gives an exact result or none, a negative one rounds what lies behind the 28th
place. `ofText?` cuts the blanks at both ends and accepts either form.
-/

namespace TypedTable.Decimal

/-- What has been read of a plain number. -/
structure Prefix where
  mantissa : Nat
  scale : Nat
  /-- Whether the point has been read. -/
  point : Bool
  /-- Whether a digit has been read. -/
  digits : Bool
  mantissa_lt : mantissa < limit
  scale_le : scale ≤ maxScale

/-- Before the first character. -/
def Prefix.empty : Prefix := ⟨0, 0, false, false, limit_pos, Nat.zero_le _⟩

/-- The number read so far, if it has a digit. -/
def Prefix.finish (p : Prefix) (negative : Bool) : Option Decimal :=
  if p.digits then some (ofParts negative p.mantissa p.scale p.mantissa_lt p.scale_le) else none

/-- The number read so far, rounded by the digit that follows it. If rounding up makes the mantissa
too large, one fraction digit is given up; without a fraction digit there is no result. -/
def Prefix.roundBy (p : Prefix) (negative : Bool) (next : Nat) : Option Decimal :=
  if next < 5 then some (ofParts negative p.mantissa p.scale p.mantissa_lt p.scale_le)
  else if h : p.mantissa + 1 < limit then
    some (ofParts negative (p.mantissa + 1) p.scale h p.scale_le)
  else if p.scale = 0 then none
  else
    some (ofParts negative ((p.mantissa + 5) / 10) (p.scale - 1)
      (by
        have := p.mantissa_lt
        have := limit_eq
        omega)
      (Nat.le_trans (Nat.sub_le ..) p.scale_le))

/-- The number read so far, rounded by the first digit behind it. Nothing but digits and underscores
may stand there. -/
def Prefix.roundRest (p : Prefix) (negative : Bool) (rest : List Char) : Option Decimal := do
  let digits ← (rest.filter (· != '_')).mapM Text.digit?
  p.roundBy negative (digits.headD 0)

/-- Continues a plain number. -/
def readFrom (negative : Bool) (p : Prefix) : List Char → Option Decimal
  | [] => p.finish negative
  | c :: rest =>
    if hs : p.scale < maxScale then
      match Text.digit? c with
      | some d =>
        if hm : p.mantissa * 10 + d < limit then
          readFrom negative
            ⟨p.mantissa * 10 + d, if p.point then p.scale + 1 else p.scale, p.point, true, hm,
              by split <;> omega⟩ rest
        else if p.point then p.roundRest negative (c :: rest)
        else none
      | none =>
        if c = '.' && !p.point then readFrom negative { p with point := true } rest
        else if c = '_' && p.digits then readFrom negative p rest
        else none
    else p.roundRest negative (c :: rest)

/-- Reads a number without exponent. -/
def plain? (cs : List Char) : Option Decimal :=
  match cs with
  | '-' :: rest => readFrom true .empty rest
  | '+' :: rest => readFrom false .empty rest
  | _ => readFrom false .empty cs

/-- The largest magnitude of an exponent that is read. -/
def maxExponent : Nat := 28

/-- The decimal times `10 ^ n`, if that is a decimal. A number whose scale is too small for `n` is
written with zeros instead, and a zero written so loses its sign. -/
def raise? (d : Decimal) (n : Nat) : Option Decimal :=
  if n ≤ d.scale then
    some { d with scale := d.scale - n, scale_le := Nat.le_trans (Nat.sub_le ..) d.scale_le }
  else if h : d.mantissa * Nat.pow 10 (n - d.scale) < limit then
    some (ofParts d.negative (d.mantissa * Nat.pow 10 (n - d.scale)) 0 h (Nat.zero_le _))
  else none

/-- The decimal over `10 ^ n`, its digits behind the 28th place rounded away, a half going away from
zero. The sign stays, also on a zero. -/
def lower (d : Decimal) (n : Nat) : Decimal :=
  if h : d.scale + n ≤ maxScale then { d with scale := d.scale + n, scale_le := h }
  else
    { negative := d.negative
      mantissa := quotient d.mantissa (d.scale + n - maxScale)
      scale := maxScale
      mantissa_lt := quotient_lt d.mantissa_lt (by omega)
      scale_le := Nat.le_refl _ }

/-- The magnitude of an exponent. -/
def exponent? (cs : List Char) : Option Nat := Text.count? (maxExponent + 1) cs

/-- Whether a character separates a number from its exponent. -/
def isExponentMark (c : Char) : Bool := c == 'e' || c == 'E'

/-- Reads a number with an exponent. -/
def scientific? (cs : List Char) : Option Decimal := do
  let base ← plain? (cs.takeWhile (!isExponentMark ·))
  match cs.dropWhile (!isExponentMark ·) with
  | _ :: '-' :: exponent => (exponent? exponent).map base.lower
  | _ :: exponent => (exponent? exponent).bind base.raise?
  | [] => none

/-- Reads a number in either form, with blanks around it. -/
def ofText? (s : String) : Option Decimal :=
  let cs := Text.trim s.toList
  plain? cs <|> scientific? cs

end TypedTable.Decimal
