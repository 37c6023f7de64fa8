import TypedTable.Column
import TypedTable.Error
/-!
# Joins

A `Join` relates two columns of different tables. Which of the two tables is the one to be joined is
settled against the tables that are there already: `Join.resolve` asks for exactly one of the two to
be among them. The order of the two columns does not matter for that (`resolve_swap`).
-/

namespace TypedTable

/-- The kinds of joins. -/
inductive JoinKind
  | plain
  | inner
  | left
  | right
  | full
deriving DecidableEq

/-- The kind of join in SQL. -/
def JoinKind.keyword : JoinKind → String
  | plain => "JOIN"
  | inner => "INNER JOIN"
  | left => "LEFT OUTER JOIN"
  | right => "RIGHT OUTER JOIN"
  | full => "FULL OUTER JOIN"

/-- A relation between two columns. -/
structure Join where
  kind : JoinKind
  first : Column
  second : Column
deriving DecidableEq

/-- A join of which it is known which column belongs to the table that is added. -/
structure ResolvedJoin where
  kind : JoinKind
  /-- The column of a table that was there before. -/
  anchor : Column
  /-- The column of the table that is added. -/
  joined : Column
deriving DecidableEq

namespace ResolvedJoin

/-- The table that is added. -/
def table (j : ResolvedJoin) : TableName := j.joined.table

/-- The join as it stands in SQL. -/
def sql (j : ResolvedJoin) : String :=
  j.kind.keyword ++ " " ++ j.table.sql ++ " ON " ++ j.anchor.sql ++ " = " ++ j.joined.sql

end ResolvedJoin

namespace Join

/-- The join with its columns in the other order. -/
def swap (j : Join) : Join := ⟨j.kind, j.second, j.first⟩

/-- Finds out which table is added to those that are there. -/
def resolve (scope : List TableName) (j : Join) : Except Error ResolvedJoin :=
  match scope.contains j.first.table, scope.contains j.second.table with
  | true, false => .ok ⟨j.kind, j.first, j.second⟩
  | false, true => .ok ⟨j.kind, j.second, j.first⟩
  | true, true => .error (.joinInScope j.first.name j.second.name)
  | false, false => .error (.joinOutOfScope j.first.name j.second.name)

/-- A join that can be resolved means the same with its columns in the other order. -/
theorem resolve_swap {scope : List TableName} {j : Join} {r : ResolvedJoin}
    (h : j.resolve scope = .ok r) : j.swap.resolve scope = .ok r := by
  unfold resolve at h ⊢
  simp only [swap]
  cases h₁ : scope.contains j.first.table <;> cases h₂ : scope.contains j.second.table <;>
    simp_all

/-- Resolves joins one after the other; each adds its table for those behind it. -/
def resolveAll (scope : List TableName) : List Join → Except Error (List ResolvedJoin)
  | [] => .ok []
  | j :: rest => do
    let r ← j.resolve scope
    let others ← resolveAll (scope ++ [r.table]) rest
    return r :: others

/-- Resolves joins one after the other and goes on after a failure, which adds no table. -/
def resolveEach (scope : List TableName) : List Join → List (Except Error ResolvedJoin)
  | [] => []
  | j :: rest =>
    match j.resolve scope with
    | .ok r => .ok r :: resolveEach (scope ++ [r.table]) rest
    | .error e => .error e :: resolveEach scope rest

end Join

end TypedTable
