import TypedTable.Column
import TypedTable.Params
import TypedTable.Text.Separated
/-!
# Predicates

A `Predicate` is a condition on rows whose columns and values have been checked. It is written as
SQL text (`Predicate.sql`) that refers to its values by name (`Predicate.params`).

A compared value is bound under a name made of the table, the column, the comparison and a number.
Every conjunction, disjunction and negation stands in brackets, so that predicates can be put
together without regard to precedence.
-/

namespace TypedTable

/-- The comparisons. -/
inductive Comparator
  | eq
  | ne
  | lt
  | gt
  | le
  | ge
  /-- A text that matches a pattern. -/
  | like
deriving DecidableEq

namespace Comparator

/-- The operator in SQL. -/
def sql : Comparator → String
  | eq => "="
  | ne => "!="
  | lt => "<"
  | gt => ">"
  | le => "<="
  | ge => ">="
  | like => "LIKE"

/-- The comparison in the name of a parameter. -/
def name : Comparator → String
  | eq => "eq"
  | ne => "ne"
  | lt => "lt"
  | gt => "gt"
  | le => "le"
  | ge => "ge"
  | like => "like"

end Comparator

/-- What a column is compared with. -/
inductive Operand
  /-- A bound value, under a name with this number. -/
  | bound (number : Nat) (v : Value)
  | column (c : Column)
  /-- SQL text that the server evaluates. -/
  | random (sql : String)
deriving DecidableEq

/-- A checked condition on rows. -/
inductive Predicate
  | compare (column : Column) (comparator : Comparator) (operand : Operand)
  | isNull (column : Column)
  | isNotNull (column : Column)
  | all (parts : List Predicate)
  | any (parts : List Predicate)
  | not (part : Predicate)
  /-- SQL text that is taken as it is, with the parameters that it refers to. -/
  | raw (sql : String) (params : Params)

/-- The name under which a compared value is bound. -/
def boundName (column : Column) (comparator : Comparator) (number : Nat) : String :=
  column.table.table.text ++ "_" ++ column.ident.text ++ "_" ++ comparator.name ++ "_" ++
    Text.naturalText number

namespace Operand

/-- The operand as it stands in a comparison. -/
def sql (column : Column) (comparator : Comparator) : Operand → String
  | bound number _ => ":" ++ boundName column comparator number
  | .column c => c.sql
  | random sql => sql

/-- The parameter that the operand refers to, if it does. -/
def params (column : Column) (comparator : Comparator) : Operand → Params
  | bound number v => .single (boundName column comparator number) v
  | .column _ | random _ => .empty

end Operand

namespace Predicate

/-- Predicates with an operator between any two of them, in brackets; without any, the constant that
the operator leaves unchanged. -/
def group (operator constant : String) : List String → String
  | [] => "(" ++ constant ++ ")"
  | parts => "(" ++ Text.separated (" " ++ operator ++ " ") parts ++ ")"

mutual

/-- The predicate as it stands in SQL. -/
def sql : Predicate → String
  | compare column comparator operand =>
    column.sql ++ " " ++ comparator.sql ++ " " ++ operand.sql column comparator
  | isNull column => column.sql ++ " IS NULL"
  | isNotNull column => column.sql ++ " IS NOT NULL"
  | all parts => group "AND" "TRUE" (sqlList parts)
  | any parts => group "OR" "FALSE" (sqlList parts)
  | not part => "(NOT " ++ part.sql ++ ")"
  | raw sql _ => sql

/-- Each of the predicates as it stands in SQL. -/
def sqlList : List Predicate → List String
  | [] => []
  | p :: rest => p.sql :: sqlList rest

end

mutual

/-- The parameters that the predicate refers to. Of a name that is bound twice the last value
counts. -/
def params : Predicate → Params
  | compare column comparator operand => operand.params column comparator
  | isNull _ | isNotNull _ => .empty
  | all parts | any parts => paramsAfter .empty parts
  | not part => part.params
  | raw _ params => params

/-- Parameters to which those of predicates are added, one after the other. -/
def paramsAfter (before : Params) : List Predicate → Params
  | [] => before
  | p :: rest => paramsAfter (before.merge p.params) rest

end

/-- The texts of a list of predicates are taken one by one. -/
theorem sqlList_eq_map (parts : List Predicate) : sqlList parts = parts.map sql := by
  induction parts with
  | nil => rfl
  | cons p rest ih => rw [sqlList, List.map_cons, ih]

end Predicate

end TypedTable
