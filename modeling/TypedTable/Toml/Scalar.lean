import TypedTable.Text.Digits
import TypedTable.Toml.Node
/-!
# Scalars without quotes

An unquoted scalar is a run of letters, digits and a few signs that is a truth value, an integer, a
floating-point number or a date and time. `scalar?` decides which, if any. A number that no number
type can hold is not a scalar.
-/

namespace TypedTable.Toml

/-- The value of a hexadecimal digit. -/
def hexDigit? (c : Char) : Option Nat :=
  if c.isDigit then some (c.toNat - '0'.toNat)
  else if 'a' ≤ c ∧ c ≤ 'f' then some (c.toNat - 'a'.toNat + 10)
  else if 'A' ≤ c ∧ c ≤ 'F' then some (c.toNat - 'A'.toNat + 10)
  else none

/-- The value of a digit in a number system with this base. -/
def digitIn? (base : Nat) (c : Char) : Option Nat := (hexDigit? c).filter (· < base)

/-- The values of digits between which single underscores may stand. -/
def digits? (base : Nat) : List Char → Option (List Nat)
  | [] => none
  | [c] => (digitIn? base c).map fun d => [d]
  | c :: '_' :: rest => do return (← digitIn? base c) :: (← digits? base rest)
  | c :: rest => do return (← digitIn? base c) :: (← digits? base rest)

/-- The number with these digits. -/
def ofDigits (base : Nat) (digits : List Nat) : Nat := digits.foldl (fun n d => n * base + d) 0

/-- Digits without a leading zero, unless they are the zero. -/
def canonical? (digits : List Nat) : Option (List Nat) :=
  match digits with
  | 0 :: _ :: _ => none
  | _ => some digits

/-- A text without its sign, and whether the sign is a minus. -/
def unsigned (cs : List Char) : Bool × List Char :=
  match cs with
  | '-' :: rest => (true, rest)
  | '+' :: rest => (false, rest)
  | _ => (false, cs)

/-- An integer: with a sign in decimal, or without one in another base. -/
def integer? (cs : List Char) : Option Int :=
  match cs with
  | '0' :: 'x' :: rest => (digits? 16 rest).map fun ds => ofDigits 16 ds
  | '0' :: 'o' :: rest => (digits? 8 rest).map fun ds => ofDigits 8 ds
  | '0' :: 'b' :: rest => (digits? 2 rest).map fun ds => ofDigits 2 ds
  | _ => do
    let (negative, rest) := unsigned cs
    let n := ofDigits 10 (← (digits? 10 rest).bind canonical?)
    return if negative then -(n : Int) else n

/-- Whether an integer can be held: in 128 bits, with or without a sign. -/
def isHoldable (n : Int) : Bool := -(Nat.pow 2 127 : Int) ≤ n && n < Nat.pow 2 128

/-- The part of a text before a character and the part after it, if the character is there. -/
def cut (isMark : Char → Bool) (cs : List Char) : List Char × Option (List Char) :=
  match cs.dropWhile (!isMark ·) with
  | [] => (cs, none)
  | _ :: rest => (cs.takeWhile (!isMark ·), some rest)

/-- The exponent of a floating-point number; zero if there is none. -/
def exponent? (part : Option (List Char)) : Option Int :=
  match part with
  | none => some 0
  | some cs => do
    let (negative, rest) := unsigned cs
    let n := ofDigits 10 (← digits? 10 rest)
    return if negative then -(n : Int) else n

/-- The least number that is rounded to infinity. -/
def overflow : Nat := Nat.pow 2 1024 - Nat.pow 2 970

/-- Whether the number with these digits, times a power of ten, is finite as a floating-point
number. The powers that are far from the limit are decided by the number of digits. -/
def isFinite (digits : List Nat) (power : Int) : Bool :=
  let n := ofDigits 10 digits
  let size := (Nat.toDigits 10 n).length + power
  if n = 0 ∨ size < 300 then true
  else if 320 < size then false
  else if 0 ≤ power then n * Nat.pow 10 power.toNat < overflow
  else n < overflow * Nat.pow 10 power.natAbs

/-- Whether a text is a floating-point number: it has a fraction or an exponent, or is infinite or
not a number. -/
def isFloat (cs : List Char) : Bool :=
  let (_, rest) := unsigned cs
  let (mantissa, exponent) := cut (fun c => c = 'e' || c = 'E') rest
  let (whole, fraction) := cut (· = '.') mantissa
  if rest = "inf".toList ∨ rest = "nan".toList then true
  else if fraction.isNone && exponent.isNone then false
  else
    let checked := do
      let whole ← (digits? 10 whole).bind canonical?
      let fraction ← match fraction with
        | none => some []
        | some part => digits? 10 part
      let power ← exponent? exponent
      return isFinite (whole ++ fraction) (power - fraction.length)
    checked.getD false

/-- A number of so many digits at the front of a text, within bounds. -/
def field? (width low high : Nat) (cs : List Char) : Option (List Char) := do
  let n ← Text.run? (cs.take width)
  if (cs.take width).length = width ∧ low ≤ n ∧ n ≤ high then some (cs.drop width) else none

/-- What follows a character at the front of a text. -/
def after? (c : Char) (cs : List Char) : Option (List Char) :=
  match cs with
  | d :: rest => if c = d then some rest else none
  | [] => none

/-- The number of days of a month. -/
def monthLength (year month : Nat) : Nat :=
  if month = 2 then
    if year % 4 = 0 ∧ (year % 100 ≠ 0 ∨ year % 400 = 0) then 29 else 28
  else if month ∈ [4, 6, 9, 11] then 30
  else 31

/-- What follows a date at the front of a text. -/
def afterDate? (cs : List Char) : Option (List Char) := do
  let year ← Text.run? (cs.take 4)
  let rest ← field? 4 0 9999 cs >>= after? '-'
  let month ← Text.run? (rest.take 2)
  let rest ← field? 2 1 12 rest >>= after? '-'
  field? 2 1 (monthLength year month) rest

/-- What follows a fraction of a second at the front of a text, if there is one. -/
def afterFraction? (cs : List Char) : Option (List Char) :=
  match cs with
  | '.' :: d :: rest => if d.isDigit then some (rest.dropWhile Char.isDigit) else none
  | '.' :: [] => none
  | _ => some cs

/-- What follows a time of day at the front of a text. The seconds may be left out. -/
def afterTime? (cs : List Char) : Option (List Char) := do
  let rest ← field? 2 0 23 cs >>= after? ':' >>= field? 2 0 59
  match rest with
  | ':' :: rest => field? 2 0 60 rest >>= afterFraction?
  | _ => return rest

/-- Whether a text is an offset from universal time, or empty. -/
def isOffset (cs : List Char) : Bool :=
  match cs with
  | [] => true
  | ['Z'] | ['z'] => true
  | c :: rest =>
    (c = '+' || c = '-') &&
      (field? 2 0 23 rest >>= after? ':' >>= field? 2 0 59) == some []

/-- Whether a text is a date, a time of day, or both with a letter or a space between them. -/
def isMoment (cs : List Char) : Bool :=
  match afterDate? cs with
  | none => afterTime? cs == some []
  | some [] => true
  | some (c :: rest) =>
    (c = 'T' || c = 't' || c = ' ') && ((afterTime? rest).map isOffset).getD false

/-- The scalar that a text without quotes stands for. -/
def scalar? (cs : List Char) : Option Node :=
  if cs = "true".toList then some (.boolean true)
  else if cs = "false".toList then some (.boolean false)
  else
    match integer? cs with
    | some n => if isHoldable n then some (.integer n) else none
    | none =>
      if isFloat cs then some .float
      else if isMoment cs then some .moment
      else none

end TypedTable.Toml
