import TypedTable.Conversion
import TypedTable.SqlType.Generator
/-!
# Columns

A `ColumnDef` is the declaration of a column. It has no table yet; a schema gives it one and makes
it a `Column`, whose name is then a full `ColumnName`. Names decide which columns are the same:
`Column.isSame` says nothing about types.

A default stands in for a value that was not given. It goes through the column's type where that is
possible and is taken as it is otherwise, so that the column's own check reports it.

A default is a value or a function that computes one, and such a function may give another value
whenever it is called. What it gives is not part of the column: whoever takes a default has to say
with an `Evaluation` what the functions give there.
-/

namespace TypedTable

/-- What stands in for a value that was not given. -/
inductive Default
  | constant (v : Value)
  /-- A function, by its number, that is called anew whenever a value is needed. -/
  | computed (function : Nat)
deriving DecidableEq

/-- The value of a default, if this is what calls of functions give. -/
def Default.resolve (call : Nat → Value) : Default → Value
  | constant v => v
  | computed function => call function

/-- What functions give when they are called for the default of a column. -/
abbrev Evaluation := ColumnName → Nat → Value

/-- What a column asks of its values besides the type. -/
inductive Flag
  | primaryKey
  | unique
  | notNull
deriving DecidableEq

/-- The declaration of a column. -/
structure ColumnDef where
  name : String
  type : SqlType
  primaryKey : Bool := false
  unique : Bool := false
  notNull : Bool := false
  default : Option Default := none
  foreignKey : Option ColumnName := none
deriving DecidableEq

namespace ColumnDef

/-- The declaration with one more flag. A primary key is unique and takes no null. -/
def flag (d : ColumnDef) : Flag → ColumnDef
  | .primaryKey => { d with primaryKey := true, unique := true, notNull := true }
  | .unique => { d with unique := true }
  | .notNull => { d with notNull := true }

/-- The declaration with a value as its default. -/
def withDefault (d : ColumnDef) (v : Value) : ColumnDef := { d with default := some (.constant v) }

/-- The declaration with a function that computes its default. -/
def withComputedDefault (d : ColumnDef) (function : Nat) : ColumnDef :=
  { d with default := some (.computed function) }

/-- The declaration with a column that it refers to. -/
def withForeignKey (d : ColumnDef) (target : ColumnName) : ColumnDef :=
  { d with foreignKey := some target }

end ColumnDef

/-- A column of a table. -/
structure Column where
  name : ColumnName
  type : SqlType
  primaryKey : Bool
  unique : Bool
  notNull : Bool
  default : Option Default
  foreignKey : Option ColumnName
deriving DecidableEq

/-- The declared column in a table, under a checked name. -/
def ColumnDef.bind (d : ColumnDef) (table : TableName) (name : Ident) : Column :=
  { name := ⟨table, name⟩
    type := d.type
    primaryKey := d.primaryKey
    unique := d.unique
    notNull := d.notNull
    default := d.default
    foreignKey := d.foreignKey }

namespace Column

/-- The column's own name. -/
def ident (c : Column) : Ident := c.name.column

/-- The table that the column belongs to. -/
def table (c : Column) : TableName := c.name.table

/-- The column's full name as it stands in SQL. -/
def sql (c : Column) : String := c.name.sql

/-- Whether two columns have the same table and name. -/
def isSame (c d : Column) : Bool := c.name = d.name

/-- The value that stands in for one that was not given. -/
def default? (c : Column) (e : Evaluation) : Option Value :=
  c.default.map fun d =>
    let v := d.resolve (e c.name)
    (c.type.coerce v).toOption.getD v

/-- The value in the form that the column stores. -/
def convert (c : Column) (v : Value) : Except Error Value := c.type.convert v

/-- The value in the form that the column stores, if the column takes it. -/
def validate (c : Column) (v : Value) : Except Violation Value :=
  c.type.validate c.ident.text c.notNull v

/-- What the server draws random values of the column from. -/
def generator (c : Column) : Except Error Generator :=
  match c.foreignKey with
  | some target => .ok (.existing target)
  | none =>
    match c.type.generator? with
    | some g => .ok g
    | none => .error .noGenerator

/-- The column as it stands in the declaration of its table. Uniqueness of a key is left to the
table. -/
def definition (c : Column) : String :=
  c.ident.sql ++ " " ++ c.type.name ++
    (if c.unique && !c.primaryKey then " UNIQUE" else "") ++
    (if c.notNull then " NOT NULL" else "") ++
    (match c.foreignKey with
      | some target => " REFERENCES " ++ target.table.sql ++ " (" ++ target.column.sql ++ ")"
      | none => "")

end Column

end TypedTable
