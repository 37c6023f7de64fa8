/-!
# Binary floating-point numbers of 64 bits

A `Double` is the 64-bit word of an IEEE 754 binary64 number: a sign, an exponent field of 11 bits
and a fraction of 52 bits. Keeping the word keeps every such number apart, the two zeros and the
payloads of not-a-number included, and lets each operation be plain arithmetic on naturals.

A finite number is `± significand * 2 ^ exponent` (`Double.significand`, `Double.exponent`).
`Double.same` is the comparison of the format: not-a-number differs from itself and the two zeros
are the same.

`Double.ofSingle` widens a number of 32 bits, which loses nothing.
-/

namespace TypedTable

/-- A binary64 number, as its word. -/
structure Double where
  bits : UInt64
deriving DecidableEq

namespace Double

/-- Whether the sign bit is set. -/
def negative (x : Double) : Bool := Nat.pow 2 63 ≤ x.bits.toNat

/-- The biased exponent. -/
def exponentField (x : Double) : Nat := x.bits.toNat / Nat.pow 2 52 % Nat.pow 2 11

/-- The low 52 bits. -/
def fraction (x : Double) : Nat := x.bits.toNat % Nat.pow 2 52

/-- Whether the word stands for a number. -/
def isFinite (x : Double) : Bool := x.exponentField != 2047

/-- Whether the word is a not-a-number. -/
def isNaN (x : Double) : Bool := x.exponentField == 2047 && x.fraction != 0

/-- Whether the number is one of the two zeros. -/
def isZero (x : Double) : Bool := x.exponentField == 0 && x.fraction == 0

/-- The integer significand of a finite number: the fraction with its hidden bit, which only the
numbers of exponent field zero lack. -/
def significand (x : Double) : Nat :=
  if x.exponentField = 0 then x.fraction else Nat.pow 2 52 + x.fraction

/-- The power of two that the integer significand is multiplied by. -/
def exponent (x : Double) : Int := (max x.exponentField 1 : Nat) - 1075

/-- Whether two words are the same number. -/
def same (x y : Double) : Bool :=
  !x.isNaN && !y.isNaN && (x.bits == y.bits || (x.isZero && y.isZero))

/-- The binary64 word of a binary32 word: the same number, or a not-a-number marked as quiet. -/
def ofSingle (word : UInt32) : Double :=
  let w := word.toNat
  let sign := w / Nat.pow 2 31 * Nat.pow 2 63
  let field := w / Nat.pow 2 23 % Nat.pow 2 8
  let fraction := w % Nat.pow 2 23
  let magnitude :=
    if field = 255 then
      if fraction = 0 then 2047 * Nat.pow 2 52
      else 2047 * Nat.pow 2 52 + (fraction * Nat.pow 2 29 ||| Nat.pow 2 51)
    else if field = 0 then
      if fraction = 0 then 0
      else
        -- the leading bit of a subnormal becomes the hidden bit
        let lead := fraction.log2
        (lead + 874) * Nat.pow 2 52 + (fraction - Nat.pow 2 lead) * Nat.pow 2 (52 - lead)
    else (field + 896) * Nat.pow 2 52 + fraction * Nat.pow 2 29
  ⟨UInt64.ofNat (sign + magnitude)⟩

end Double

end TypedTable
