import Mathlib.Algebra.Order.Archimedean.Real.Basic
import TypedTable.Proofs.Splice.Lexeme
/-!
# Expressions for numbers and texts

A `Scalar` is an SQL expression of numbers and texts, as a server evaluates for a random value.
`Scalar.ofText?` reads it from its text: multiplication binds more strongly than addition and
subtraction, and operators of one strength go from the left.

`Scalar.eval` is the value of an expression for a number that is drawn for `RANDOM()`, in exact
arithmetic. How a number is written as a text and how a text is hashed is up to the server
(`Functions`). There is no value where a number is needed and a text is given, or where a number
does not fit the type that it is cast to.
-/

namespace TypedTable

/-! ### Expressions -/

/-- The operators between numbers. -/
inductive Arithmetic
  | plus
  | minus
  | times
deriving DecidableEq

/-- What a value can be cast to. -/
inductive CastTarget
  | integer (width : IntegerWidth)
  | numeric
  | text
deriving DecidableEq

/-- An expression of numbers and texts. -/
inductive Scalar
  /-- `RANDOM()` -/
  | draw
  /-- A number by its digits. -/
  | literal (digits : String)
  | binary (op : Arithmetic) (a b : Scalar)
  | floor (a : Scalar)
  /-- `TRUNC`, which keeps a number of places behind the point. -/
  | truncate (a : Scalar) (places : String)
  | cast (a : Scalar) (target : CastTarget)
  /-- `MD5` -/
  | hash (a : Scalar)
  /-- `SUBSTRING`, from a place on that counts from one. -/
  | part (a : Scalar) (first length : String)
deriving DecidableEq

/-! ### Reading -/

namespace Arithmetic

/-- The operator that is written like this. -/
def ofText? : String → Option Arithmetic
  | "+" => some plus
  | "-" => some minus
  | "*" => some times
  | _ => none

/-- How strongly an operator binds. -/
def strength : Arithmetic → Nat
  | plus | minus => 0
  | times => 1

end Arithmetic

/-- The target with this name. -/
def CastTarget.ofText? : String → Option CastTarget
  | "SMALLINT" => some (integer .small)
  | "INTEGER" => some (integer .regular)
  | "NUMERIC" => some numeric
  | "TEXT" => some text
  | _ => none

namespace Scalar

/-- Reads what stands behind the first argument of a function. -/
def readCall? (function : String) (a : Scalar) (ls : List Lexeme) :
    Option (Scalar × List Lexeme) :=
  match function, ls with
  | "FLOOR", .mark ')' :: ls => some (floor a, ls)
  | "MD5", .mark ')' :: ls => some (hash a, ls)
  | "TRUNC", .mark ',' :: .number places :: .mark ')' :: ls => some (truncate a places, ls)
  | "CAST", .word "AS" :: .word target :: .mark ')' :: ls =>
    (CastTarget.ofText? target).map (cast a ·, ls)
  | "SUBSTRING", .word "FROM" :: .number first :: .word "FOR" :: .number length :: .mark ')' ::
      ls => some (part a first length, ls)
  | _, _ => none

mutual

/-- Reads an expression whose operators are at least as strong as a given strength. -/
def read? : Nat → Nat → List Lexeme → Option (Scalar × List Lexeme)
  | 0, _, _ => none
  | fuel + 1, strength, ls =>
    (readOperand? fuel ls).bind fun (a, ls) => readRest? fuel strength a ls

/-- Reads the operators behind the first operand, with their other operands. -/
def readRest? : Nat → Nat → Scalar → List Lexeme → Option (Scalar × List Lexeme)
  | 0, _, _, _ => none
  | fuel + 1, strength, a, .operator text :: ls =>
    (Arithmetic.ofText? text).bind fun op =>
      if strength ≤ op.strength then
        (read? fuel (op.strength + 1) ls).bind fun (b, ls) =>
          readRest? fuel strength (binary op a b) ls
      else some (a, .operator text :: ls)
  | _ + 1, _, a, ls => some (a, ls)

/-- Reads an operand: a number, an expression in brackets or a function with its arguments. -/
def readOperand? : Nat → List Lexeme → Option (Scalar × List Lexeme)
  | 0, _ => none
  | _ + 1, .number digits :: ls => some (literal digits, ls)
  | _ + 1, .word "RANDOM" :: .mark '(' :: .mark ')' :: ls => some (draw, ls)
  | fuel + 1, .mark '(' :: ls =>
    (read? fuel 0 ls).bind fun (a, ls) => (ls.dropPrefix? [.mark ')']).map (a, ·)
  | fuel + 1, .word function :: .mark '(' :: ls =>
    (read? fuel 0 ls).bind fun (a, ls) => readCall? function a ls
  | _ + 1, _ => none

end

/-- Reads an expression to its end. No lexeme is read more than twice. -/
def ofLexemes? (ls : List Lexeme) : Option Scalar :=
  match read? (2 * ls.length + 2) 0 ls with
  | some (a, []) => some a
  | _ => none

/-- The expression that a text is. -/
def ofText? (text : String) : Option Scalar := (lexemes text).bind ofLexemes?

/-- Operators of one strength go from the left, and a product is one operand of a sum. -/
example : ofText? "2 - RANDOM() * 3 - (4)" =
    some (binary .minus (binary .minus (literal "2") (binary .times draw (literal "3")))
      (literal "4")) := by
  decide +kernel

end Scalar

/-! ### Evaluation -/

namespace IntegerWidth

/-- The least integer of a width. -/
def least : IntegerWidth → ℤ
  | small => -32768
  | regular => -2147483648

/-- The greatest integer of a width. -/
def greatest : IntegerWidth → ℤ
  | small => 32767
  | regular => 2147483647

/-- An integer of a width. -/
def value : IntegerWidth → ℤ → Value
  | small, n => .smallInt (Int16.ofInt n)
  | regular, n => .integer (Int32.ofInt n)

end IntegerWidth

/-- What an expression can be worth. -/
inductive Drawn
  | number (x : ℝ)
  /-- A number with so many places behind the point, by its digits. -/
  | decimal (digits : ℤ) (places : ℕ)
  | integer (width : IntegerWidth) (n : ℤ)
  | text (s : String)

namespace Drawn

/-- The number of a value that has one. -/
noncomputable def number? : Drawn → Option ℝ
  | number x => some x
  | decimal digits places => some (digits / 10 ^ places)
  | integer _ n => some n
  | text _ => none

/-- The characters of a text. -/
def text? : Drawn → Option String
  | text s => some s
  | _ => none

/-- The value that is stored, if it has a form. -/
def value? : Drawn → Option Value
  | number _ => none
  | decimal digits places =>
    if h : digits.natAbs < Decimal.limit ∧ places ≤ Decimal.maxScale then
      some (.numeric (.ofParts (digits < 0) digits.natAbs places h.1 h.2))
    else none
  | integer width n => some (width.value n)
  | text s => some (.text s)

end Drawn

/-- What a server does in its own way. -/
structure Functions where
  /-- A number as a text. -/
  text : ℝ → String
  hash : String → String

/-- The number that two numbers give. -/
noncomputable def Arithmetic.apply : Arithmetic → ℝ → ℝ → ℝ
  | plus, x, y => x + y
  | minus, x, y => x - y
  | times, x, y => x * y

/-- The nearest integer to a number, the even one of two. -/
noncomputable def nearestEven (x : ℝ) : ℤ :=
  if x - ⌊x⌋ < 1 / 2 ∨ x - ⌊x⌋ = 1 / 2 ∧ ⌊x⌋ % 2 = 0 then ⌊x⌋ else ⌊x⌋ + 1

/-- A number without its fraction. -/
noncomputable def towardZero (x : ℝ) : ℤ := if x < 0 then ⌈x⌉ else ⌊x⌋

/-- The characters of a text from a place on, which counts from one. -/
def substring (s : String) (first length : ℕ) : String :=
  String.ofList ((s.toList.take (first + length - 1)).drop (first - 1))

/-- The value in the form of another type. -/
noncomputable def CastTarget.apply (f : Functions) : CastTarget → Drawn → Option Drawn
  | integer width, v => v.number?.bind fun x =>
    if width.least ≤ nearestEven x ∧ nearestEven x ≤ width.greatest then
      some (.integer width (nearestEven x))
    else none
  | numeric, v => v.number?.map .number
  | text, v => (v.text?.or (v.number?.map f.text)).map .text

/-- The value of an expression if `r` is what `RANDOM()` gives. -/
noncomputable def Scalar.eval (f : Functions) (r : ℝ) : Scalar → Option Drawn
  | draw => some (.number r)
  | literal digits => (Text.run? digits.toList).map fun n : ℕ => .number n
  | binary op a b => do
    let x ← (a.eval f r).bind Drawn.number?
    let y ← (b.eval f r).bind Drawn.number?
    some (.number (op.apply x y))
  | floor a => ((a.eval f r).bind Drawn.number?).map fun x => .number ⌊x⌋
  | truncate a places => do
    let x ← (a.eval f r).bind Drawn.number?
    let places ← Text.run? places.toList
    some (.decimal (towardZero (x * 10 ^ places)) places)
  | cast a target => (a.eval f r).bind (target.apply f)
  | hash a => ((a.eval f r).bind Drawn.text?).map fun s => .text (f.hash s)
  | part a first length => do
    let s ← (a.eval f r).bind Drawn.text?
    let first ← Text.run? first.toList
    let length ← Text.run? length.toList
    some (.text (substring s first length))

/-- The value that a server gives for SQL text if `r` is what `RANDOM()` gives. -/
noncomputable def drawn? (f : Functions) (r : ℝ) (sql : String) : Option Value :=
  (Scalar.ofText? sql).bind fun e => (e.eval f r).bind Drawn.value?

end TypedTable
