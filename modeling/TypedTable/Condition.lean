import TypedTable.Predicate
import TypedTable.Schema
/-!
# Conditions

A `Condition` is what is asked of rows: comparisons of columns with values or other columns, put
together by conjunction, disjunction and negation. It names columns by a table and a name and holds
values as they were given.

`Condition.check` looks the columns up, brings the values to the types of the columns and numbers
the values that are bound, from left to right, which makes a `Predicate` of it. The numbers go on
from one condition to the next; those that were given out before a failure are not used again.
-/

namespace TypedTable

/-- A column named by its table and its own name. -/
structure ColumnRef where
  schema : Schema
  name : String
deriving DecidableEq

/-- The column that is named. -/
def ColumnRef.resolve (r : ColumnRef) : Except Error Column := r.schema.column r.name

/-- What a column is to be compared with. -/
inductive Comparand
  | value (v : Value)
  | column (r : ColumnRef)
deriving DecidableEq

/-- What is asked of rows. -/
inductive Condition
  | compare (comparator : Comparator) (column : ColumnRef) (comparand : Comparand)
  | isNull (column : ColumnRef)
  | isNotNull (column : ColumnRef)
  | all (parts : List Condition)
  | any (parts : List Condition)
  | not (part : Condition)
  /-- SQL text that is taken as it is, with the parameters that it refers to. -/
  | raw (sql : String) (params : Params)

namespace Column

/-- An error if the comparison is a match of patterns and the column holds no texts. -/
def checkPattern (c : Column) (comparator : Comparator) : Except Error Unit :=
  if comparator = .like ∧ !c.type.isText then .error (.patternOnColumn c.name c.type) else .ok ()

/-- The operand that a value is for the column. Only a value that is bound takes the number. -/
def operand (c : Column) (v : Value) (next : Nat) : Except Error Operand × Nat :=
  match c.validate v with
  | .error violation => (.error (.violation violation), next)
  | .ok (.random sql) => (.ok (.random sql), next)
  | .ok w => (.ok (.bound next w), next + 1)

end Column

namespace Comparand

/-- The column that is named, if one is. -/
def resolve : Comparand → Except Error (Column ⊕ Value)
  | value v => .ok (.inr v)
  | column r => r.resolve.map .inl

end Comparand

namespace Condition

/-- Checks a comparison: the columns first, from left to right, then whether the column has the
comparison, then the value. -/
def checkComparison (comparator : Comparator) (column : ColumnRef) (comparand : Comparand)
    (next : Nat) : Except Error Predicate × Nat :=
  let checked := do
    let c ← column.resolve
    let other ← comparand.resolve
    c.checkPattern comparator
    return (c, other)
  match checked with
  | .error e => (.error e, next)
  | .ok (c, .inl other) => (.ok (.compare c comparator (.column other)), next)
  | .ok (c, .inr v) =>
    let (operand, next) := c.operand v next
    (operand.map (.compare c comparator), next)

mutual

/-- The predicate that the condition stands for if the next bound value has the number `next`, and
the number of the one after it. -/
def check (next : Nat) : Condition → Except Error Predicate × Nat
  | compare comparator column comparand => checkComparison comparator column comparand next
  | isNull column => (column.resolve.map .isNull, next)
  | isNotNull column => (column.resolve.map .isNotNull, next)
  | all parts =>
    let (checked, next) := checkList next parts
    (checked.map .all, next)
  | any parts =>
    let (checked, next) := checkList next parts
    (checked.map .any, next)
  | not part =>
    let (checked, next) := check next part
    (checked.map .not, next)
  | raw sql params => (.ok (.raw sql params), next)

/-- Checks conditions one after the other, up to the first that fails. -/
def checkList (next : Nat) : List Condition → Except Error (List Predicate) × Nat
  | [] => (.ok [], next)
  | c :: rest =>
    match check next c with
    | (.error e, next) => (.error e, next)
    | (.ok p, next) =>
      let (checked, next) := checkList next rest
      (checked.map (p :: ·), next)

end

/-- Checks conditions that do not depend on each other: each has its own result, and the numbers go
on from one to the next. -/
def checkEach (next : Nat) : List Condition → List (Except Error Predicate) × Nat
  | [] => ([], next)
  | c :: rest =>
    let (checked, next) := check next c
    let (others, next) := checkEach next rest
    (checked :: others, next)

end Condition

end TypedTable
