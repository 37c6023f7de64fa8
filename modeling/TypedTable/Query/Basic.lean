import TypedTable.Client
/-!
# Queries

A `Query` is a statement together with the tables that it is about. It is written once and can be
run any number of times; a query whose text is blank is never sent.
-/

namespace TypedTable

/-- A statement that is ready to be run. -/
structure Query where
  statement : Statement
  /-- The tables in the query, its own first. -/
  tables : List TableName
deriving DecidableEq

namespace Query

/-- Whether running the query sends nothing. -/
def isNoop (q : Query) : Bool := q.statement.isEmpty

/-- The rows that come back. -/
def records {σ : Type} (q : Query) (client : Client σ) (s : σ) :
    Except Error (List Record) × σ :=
  if q.isNoop then (.ok [], s) else client.query q.statement s

/-- The number of rows that come back. -/
def execute {σ : Type} (q : Query) (client : Client σ) (s : σ) : Except Error Nat × σ :=
  let (records, s) := q.records client s
  (records.map List.length, s)

end Query

end TypedTable
