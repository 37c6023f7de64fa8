import TypedTable.Text.Quoted
/-!
# Names of schemas, tables and columns

An `Ident` is a name of one or more ASCII letters, digits and underscores. It is always written in
double quotes, so it is never taken for a keyword and nothing in it has to be escaped. A `TableName`
is the pair of schema and table, a `ColumnName` a table with one of its columns; both are written
with a point between their parts. Two columns are the same column exactly when their names are
equal.
-/

namespace TypedTable

/-- Whether a character may stand in a name. -/
def isNameCharacter (c : Char) : Bool := c == '_' || c.isAlphanum

/-- A name of a schema, table or column. -/
structure Ident where
  text : String
  nonempty : text.toList ≠ []
  legal : text.toList.all isNameCharacter = true
deriving DecidableEq

/-- Why a text is not a name. -/
inductive NameFault
  | empty
  /-- The first character that a name cannot have, and the text. -/
  | character (c : Char) (text : String)
deriving DecidableEq

/-- What is wrong with the name. -/
def NameFault.message : NameFault → String
  | empty => "Identifier cannot be empty"
  | character c text =>
    "Invalid character '" ++ String.singleton c ++ "' in identifier " ++ Text.quoted text

/-- The name with this text. -/
def Ident.ofText (text : String) : Except NameFault Ident :=
  if hempty : text.toList = [] then .error .empty
  else
    match h : text.toList.find? (!isNameCharacter ·) with
    | some c => .error (.character c text)
    | none => .ok ⟨text, hempty, by simpa [List.find?_eq_none] using h⟩

/-- The name as it stands in SQL. -/
def Ident.sql (i : Ident) : String := "\"" ++ i.text ++ "\""

/-- A table in its schema. -/
structure TableName where
  schema : Ident
  table : Ident
deriving DecidableEq

/-- The table's name as it stands in SQL. -/
def TableName.sql (t : TableName) : String := t.schema.sql ++ "." ++ t.table.sql

/-- A column in its table. -/
structure ColumnName where
  table : TableName
  column : Ident
deriving DecidableEq

/-- The column's full name as it stands in SQL. -/
def ColumnName.sql (c : ColumnName) : String := c.table.sql ++ "." ++ c.column.sql

end TypedTable
