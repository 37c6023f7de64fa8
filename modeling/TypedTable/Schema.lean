import TypedTable.Column
import TypedTable.Text.Separated
/-!
# Declared tables

A `Schema` is a table with its columns in the order of their declaration. All of them belong to the
table and no two have the same name, which is part of the type; `Schema.declare` checks the names
and adds the columns one after the other.

A column is looked up by its own name (`Schema.column`) or by its full name (`Schema.position?`).
-/

namespace TypedTable

/-- A table with its columns. -/
structure Schema where
  table : TableName
  columns : List Column
  table_eq : ∀ c ∈ columns, c.table = table
  nodup : (columns.map Column.ident).Nodup
deriving DecidableEq

namespace Schema

/-- A table without columns. -/
def empty (table : TableName) : Schema := ⟨table, [], by simp, by simp⟩

/-- The table with one more column, whose name is new. -/
def append (s : Schema) (d : ColumnDef) (name : Ident)
    (h : name ∉ s.columns.map Column.ident) : Schema where
  table := s.table
  columns := s.columns ++ [d.bind s.table name]
  table_eq := by
    intro c hc
    rcases List.mem_append.1 hc with hc | hc
    · exact s.table_eq c hc
    · simp only [List.mem_singleton] at hc
      exact hc ▸ rfl
  nodup := by
    rw [List.map_append, List.nodup_append]
    refine ⟨s.nodup, by simp, ?_⟩
    intro a ha b hb hab
    simp only [List.map_cons, List.map_nil, List.mem_singleton] at hb
    exact h (by rw [hab, hb] at ha; exact ha)

/-- Declares one more column. -/
def add (s : Schema) (d : ColumnDef) : Except Error Schema :=
  if s.columns.any (·.ident.text = d.name) then .error (.duplicateColumn s.table d.name)
  else
    match Ident.ofText d.name with
    | .error fault => .error (.illegalName fault)
    | .ok name =>
      if h : name ∈ s.columns.map Column.ident then .error (.duplicateColumn s.table d.name)
      else .ok (s.append d name h)

/-- Declares a table with its columns. -/
def declare (schema table : String) (columns : List ColumnDef) : Except Error Schema := do
  let schema ← (Ident.ofText schema).mapError .illegalName
  let table ← (Ident.ofText table).mapError .illegalName
  columns.foldlM add (empty ⟨schema, table⟩)

/-- The column at a place. -/
def get (s : Schema) (k : Fin s.columns.length) : Column := s.columns.get k

/-- The columns of the primary key, in the order of their declaration. -/
def primaryKey (s : Schema) : List Column := s.columns.filter Column.primaryKey

/-- The places of the columns of the primary key. -/
def keyPositions (s : Schema) : List (Fin s.columns.length) :=
  (List.finRange s.columns.length).filter fun k => (s.get k).primaryKey

/-- Whether the table has a primary key. -/
def hasPrimaryKey (s : Schema) : Bool := s.columns.any Column.primaryKey

/-- The place of the column with this name. -/
def index? (s : Schema) (name : String) : Option (Fin s.columns.length) :=
  s.columns.findFinIdx? (·.ident.text = name)

/-- The place of the column with this name, or an error that names it. -/
def index (s : Schema) (name : String) : Except Error (Fin s.columns.length) :=
  match s.index? name with
  | some i => .ok i
  | none => .error (.unknownColumn s.table name)

/-- The column with this name, or an error that names it. -/
def column (s : Schema) (name : String) : Except Error Column := (s.index name).map s.get

/-- The place of a column that is given by its full name. -/
def position? (s : Schema) (name : ColumnName) : Option (Fin s.columns.length) :=
  s.columns.findFinIdx? (·.name = name)

/-- The names of all columns as they stand in lists of columns. -/
def columnList (s : Schema) : String := Text.commas (s.columns.map (·.ident.sql))

/-- The names of the key columns as they stand in lists of columns. -/
def keyList (s : Schema) : String := Text.commas (s.primaryKey.map (·.ident.sql))

/-- The statement that makes the schema of the table. -/
def createSchema (s : Schema) : String := "CREATE SCHEMA IF NOT EXISTS " ++ s.table.schema.sql

/-- The statement that makes the table. -/
def createTable (s : Schema) : String :=
  let key := if s.hasPrimaryKey then ["PRIMARY KEY (" ++ s.keyList ++ ")"] else []
  "CREATE TABLE IF NOT EXISTS " ++ s.table.sql ++ " (" ++
    Text.commas (s.columns.map Column.definition ++ key) ++ ")"

end Schema

end TypedTable
