import TypedTable.Condition
import TypedTable.Query.Delete
import TypedTable.Query.Insert
import TypedTable.Query.Select
import TypedTable.Query.Update
/-!
# Requests

A `Request` is one thing that can be asked of a session: to make a row, to change or read one, or to
build a query and run it. Columns are named by a table and a name, and looked up when the request is
carried out. A request that may take defaults says what the computed ones give.
-/

namespace TypedTable

/-- A clause whose columns are still to be looked up. -/
inductive ClauseRequest
  | join (kind : JoinKind) (first second : ColumnRef)
  | filter (condition : Condition)
  | orderBy (column : ColumnRef)
  | ascending (up : Bool)
  | limit (n : Int)
  | offset (n : Int)

/-- A join whose columns are still to be looked up. -/
structure JoinRequest where
  kind : JoinKind
  first : ColumnRef
  second : ColumnRef

/-- Looks up the columns of a join. -/
def JoinRequest.resolve (r : JoinRequest) : Except Error Join := do
  return ⟨r.kind, ← r.first.resolve, ← r.second.resolve⟩

namespace ClauseRequest

/-- The clause, with the number of the next bound value after it. A condition that fails is a clause
in error; a column that is not there is not a clause at all. -/
def resolve (next : Nat) : ClauseRequest → Except Error Clause × Nat
  | join kind first second =>
    ((JoinRequest.resolve ⟨kind, first, second⟩).map .join, next)
  | filter condition =>
    let (checked, next) := condition.check next
    (.ok (.filter checked), next)
  | orderBy column => (column.resolve.map .orderBy, next)
  | ascending up => (.ok (.ascending up), next)
  | limit n => (.ok (.limit n), next)
  | offset n => (.ok (.offset n), next)

/-- The clauses, one after the other, up to the first that is none. -/
def resolveAll (next : Nat) : List ClauseRequest → Except Error (List Clause) × Nat
  | [] => (.ok [], next)
  | r :: rest =>
    match r.resolve next with
    | (.error e, next) => (.error e, next)
    | (.ok c, next) =>
      let (others, next) := resolveAll next rest
      (others.map (c :: ·), next)

end ClauseRequest

/-- How a query is run. -/
inductive Mode
  /-- The query is built first and then run a number of times. -/
  | prepared (runs : Nat)
  /-- The query is built and run at once. -/
  | direct
deriving DecidableEq

/-- What can be asked of a session. -/
inductive Request
  /-- Makes a row, sets columns of it and keeps it under a name. -/
  | new (name : String) (schema : Schema) (cells : List (String × Value))
  | set (name column : String) (v : Value)
  | unset (name column : String)
  | copy (source target : String)
  | get (name column : String) (e : Evaluation)
  | value (name column : String)
  | isSet (name column : String)
  | isOf (name : String) (schema : Schema)
  | display (schema : Schema) (names : List String) (e : Nat → Evaluation)
  /-- Selects rows and keeps them under the name with a number behind it, if there is a name. -/
  | select (schema : Schema) (columns : List ColumnRef) (clauses : List ClauseRequest)
      (mode : Mode) (keep : Option String)
  | update (schema : Schema) (sets : List (String × Value)) (clauses : List ClauseRequest)
      (mode : Mode)
  | delete (schema : Schema) (clauses : List ClauseRequest) (mode : Mode)
  /-- Writes rows that are kept under names; of several policies the last one counts. -/
  | insert (schema : Schema) (names : List String) (policies : List ConflictPolicy) (mode : Mode)
      (e : Batch.Evaluations := {})
  /-- Writes random rows and keeps them like selected ones. -/
  | random (schema : Schema) (count : Nat) (keep : Option String) (e : Batch.Evaluations := {})

end TypedTable
