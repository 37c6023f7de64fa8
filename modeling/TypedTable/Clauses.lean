import TypedTable.Join
import TypedTable.Predicate
/-!
# Clauses of queries

A query is narrowed by clauses: joins, filters, an order, a limit and an offset. `Clauses.add` takes
them one at a time. Joins and filters pile up, of the others the last one counts, and the first
clause that is in error is kept and reported by `Clauses.check`.

`Clauses.tail` resolves the clauses against the table of the query. The result, a `Tail`, is all
that follows the table's name in a statement; a statement that cannot carry joins, an order or
limits selects its rows in a subquery instead (`Tail.target`).
-/

namespace TypedTable

/-- One clause as it is asked for. -/
inductive Clause
  | join (j : Join)
  /-- A condition, or why there is none. -/
  | filter (condition : Except Error Predicate)
  | orderBy (column : Column)
  | ascending (up : Bool)
  | limit (n : Int)
  | offset (n : Int)

/-- All clauses of a query. -/
structure Clauses where
  joins : List Join := []
  filters : List Predicate := []
  orderBy : Option Column := none
  ascending : Bool := true
  limit : Option Nat := none
  offset : Option Nat := none
  /-- The first error of a clause. -/
  error : Option Error := none

namespace Clauses

/-- Keeps an error unless there is one already. -/
def fail (c : Clauses) (e : Error) : Clauses := { c with error := c.error.or (some e) }

/-- Adds a clause. -/
def add (c : Clauses) : Clause → Clauses
  | .join j => { c with joins := c.joins ++ [j] }
  | .filter (.ok p) => { c with filters := c.filters ++ [p] }
  | .filter (.error e) => c.fail e
  | .orderBy column => { c with orderBy := some column }
  | .ascending up => { c with ascending := up }
  | .limit n => if n < 0 then c.fail (.negativeLimit n) else { c with limit := some n.toNat }
  | .offset n => if n < 0 then c.fail (.negativeOffset n) else { c with offset := some n.toNat }

/-- Adds clauses one after the other. -/
def addAll (c : Clauses) (l : List Clause) : Clauses := l.foldl add c

/-- Clauses may be added in two goes. -/
theorem addAll_append (c : Clauses) (l m : List Clause) :
    c.addAll (l ++ m) = (c.addAll l).addAll m :=
  List.foldl_append

/-- Fails with the first error of a clause. -/
def check (c : Clauses) : Except Error Unit :=
  match c.error with
  | some e => .error e
  | none => .ok ()

end Clauses

/-- The order of the rows of a query. -/
structure Order where
  column : Column
  ascending : Bool
deriving DecidableEq

/-- The order as it stands in SQL. -/
def Order.sql (o : Order) : String :=
  "ORDER BY " ++ o.column.sql ++ " " ++ if o.ascending then "ASC" else "DESC"

/-- What follows the name of a table in a query. -/
structure Tail where
  joins : List ResolvedJoin
  filters : List Predicate
  order : Option Order
  limit : Option Nat
  offset : Option Nat

/-- The order that is asked for, by a column of a table that is in the query. -/
def Clauses.order (c : Clauses) (tables : List TableName) : Except Error (Option Order) :=
  match c.orderBy with
  | none => .ok none
  | some column =>
    if tables.contains column.table then .ok (some ⟨column, c.ascending⟩)
    else .error (.orderOutside column.name)

/-- Resolves the clauses against the table of the query. -/
def Clauses.tail (c : Clauses) (table : TableName) : Except Error Tail := do
  let joins ← Join.resolveAll [table] c.joins
  let order ← c.order (table :: joins.map ResolvedJoin.table)
  return ⟨joins, c.filters, order, c.limit, c.offset⟩

namespace Tail

/-- The tables of the query, its own first. -/
def tables (t : Tail) (table : TableName) : List TableName :=
  table :: t.joins.map ResolvedJoin.table

/-- Parameters to which those of the filters are added. -/
def params (t : Tail) (before : Params) : Params := Predicate.paramsAfter before t.filters

/-- The condition of the query: all filters together. -/
def condition (t : Tail) : List String :=
  match t.filters with
  | [] => []
  | filters => ["WHERE " ++ Text.separated " AND " (filters.map Predicate.sql)]

/-- All clauses as they stand in SQL, in their order. -/
def parts (t : Tail) : List String :=
  t.joins.map ResolvedJoin.sql ++ t.condition ++ (t.order.map Order.sql).toList ++
    (t.limit.map ("LIMIT " ++ Text.naturalText ·)).toList ++
    (t.offset.map ("OFFSET " ++ Text.naturalText ·)).toList

/-- Clauses in a row, each with a space in front of it. -/
def spaced (parts : List String) : String := String.join (parts.map (" " ++ ·))

/-- All clauses behind the name of the table. -/
def sql (t : Tail) : String := spaced t.parts

/-- Whether there is nothing but filters. -/
def isPlain (t : Tail) : Bool :=
  t.joins.isEmpty && t.order.isNone && t.limit.isNone && t.offset.isNone

/-- The condition that picks the rows of the table which the query is about. -/
def target (t : Tail) (table : TableName) : String :=
  if t.isPlain then spaced t.condition
  else
    " WHERE ctid IN (SELECT " ++ table.sql ++ ".ctid FROM " ++ table.sql ++ t.sql ++ ")"

end Tail

end TypedTable
