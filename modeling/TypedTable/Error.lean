import TypedTable.Name
import TypedTable.SqlType.Coercion
/-!
# Errors

What can go wrong, by cause. `Error.kind` sorts the causes and `Error.message` words them.

A `Violation` is a value that a column does not take; a `CellFault` is a cell of a result that
cannot be read; a `SettingsFault` is a setting that cannot be read.
-/

namespace TypedTable

/-- Why a column does not take a value. -/
inductive Violation
  /-- A null in a column that takes none. -/
  | notNull (column : String)
  /-- A number outside the bounds of the column's type. -/
  | outOfRange (column : String) (type : SqlType) (number : Decimal)
  /-- A value that the column's type cannot represent. -/
  | invalidType (column : String) (type : SqlType) (value : Value)
deriving DecidableEq

/-- Why a cell of a result cannot be read. -/
inductive CellFault
  /-- The bytes do not stand for a value of the column's type. -/
  | malformed (index : Nat)
  /-- The type has no reader. -/
  | unsupported (type : String)
deriving DecidableEq

/-- Why settings cannot be read. -/
inductive SettingsFault
  /-- The text is not a settings file. -/
  | unreadable
  /-- A variable does not hold a value of its kind. -/
  | setting (name text : String)
deriving DecidableEq

/-- What can go wrong. -/
inductive Error
  | illegalName (fault : NameFault)
  | illegalType (fault : TypeFault)
  | duplicateColumn (table : TableName) (name : String)
  /-- A type that no values can be drawn for. -/
  | noGenerator
  /-- A pattern match on a column that holds no text. -/
  | patternOnColumn (column : ColumnName) (type : SqlType)
  | joinInScope (first second : ColumnName)
  | joinOutOfScope (first second : ColumnName)
  | negativeLimit (n : Int)
  | negativeOffset (n : Int)
  | emptyUpdate (table : TableName)
  | upsertWithoutKey (table : TableName)
  | violation (v : Violation)
  | conversion (value : Value) (type : SqlType)
  | unknownColumn (table : TableName) (name : String)
  | unboundPlaceholder (name : String)
  | selectOutside (column : ColumnName) (table : TableName)
  | orderOutside (column : ColumnName)
  | insertForeign (table into : TableName)
  | displayForeign (table into : TableName)
  | settings (fault : SettingsFault)
  /-- The client could not reach the server. -/
  | connection (reason : String)
  /-- The text of a statement cannot be sent. -/
  | unsendable
  /-- The answer of the server is not understood. -/
  | malformedAnswer
  /-- The server refused a statement. -/
  | refused (message code : String)
  /-- The parameter with this index cannot be sent. -/
  | parameter (index : Nat)
  /-- The server expects another number of parameters. -/
  | parameterCount (expected actual : Nat)
  /-- A row with another number of cells than was asked for. -/
  | rowLength (table : TableName) (expected actual : Nat)
  | cell (column : String) (fault : CellFault)
deriving DecidableEq

/-- The kinds of errors. -/
inductive ErrorKind
  /-- A declaration or a query that makes no sense. -/
  | configuration
  /-- A value that a column does not take. -/
  | validation
  /-- A value that has no form in a type. -/
  | conversion
  /-- Something that is not there. -/
  | reference
  /-- Settings or a connection that failed. -/
  | connection
  /-- A statement that failed. -/
  | query
  /-- A result that does not fit. -/
  | decode
deriving DecidableEq

/-- The wording of a violation. -/
def Violation.message : Violation → String
  | notNull column => "column '" ++ column ++ "' violates NOT NULL constraint"
  | outOfRange column type number =>
    let (low, high) := match type.bounds? with
      | some (low, high) => (low.text, high.text)
      | none => ("", "")
    "value " ++ number.text ++ " for column '" ++ column ++ "' is out of range for " ++ type.name ++
      " (" ++ low ++ " .. " ++ high ++ ")"
  | invalidType column type value =>
    "invalid value for column '" ++ column ++ "' of type " ++ type.name ++ ": " ++ value.display

/-- The wording of a cell fault. -/
def CellFault.message : CellFault → String
  | malformed index => "error deserializing column " ++ Text.naturalText index
  | unsupported type => "unsupported column type " ++ type

/-- The wording of a settings fault. -/
def SettingsFault.message : SettingsFault → String
  | unreadable => "failed to parse connection config"
  | setting name text => "invalid " ++ name ++ ": " ++ Text.quoted text

namespace Error

/-- The kind of an error. -/
def kind : Error → ErrorKind
  | illegalName _ | illegalType _ | duplicateColumn .. | noGenerator | patternOnColumn ..
  | joinInScope .. | joinOutOfScope .. | negativeLimit _ | negativeOffset _ | emptyUpdate _
  | upsertWithoutKey _ =>
    .configuration
  | violation _ => .validation
  | conversion .. => .conversion
  | unknownColumn .. | unboundPlaceholder _ | selectOutside .. | orderOutside _ | insertForeign ..
  | displayForeign .. => .reference
  | settings _ | connection _ => .connection
  | unsendable | malformedAnswer | refused .. | parameter _ | parameterCount .. => .query
  | rowLength .. | cell .. => .decode

/-- The cause of an error in words. -/
def cause : Error → String
  | illegalName fault => fault.message
  | illegalType fault => fault.message
  | duplicateColumn table name =>
    "duplicate column " ++ Text.quoted name ++ " in table " ++ table.sql
  | noGenerator => "unbounded TEXT has no random value generator"
  | patternOnColumn column type =>
    "LIKE is not available on column " ++ column.sql ++ " of type " ++ type.name
  | joinInScope first second =>
    "cannot join " ++ first.sql ++ " and " ++ second.sql ++ ": both tables are already in scope"
  | joinOutOfScope first second =>
    "cannot join " ++ first.sql ++ " and " ++ second.sql ++ ": neither table is in scope"
  | negativeLimit n => "LIMIT must be non-negative, got " ++ Text.integerText n
  | negativeOffset n => "OFFSET must be non-negative, got " ++ Text.integerText n
  | emptyUpdate table => "UPDATE of " ++ table.sql ++ " sets no columns"
  | upsertWithoutKey table => "upsert into " ++ table.sql ++ " needs a primary key"
  | violation v => v.message
  | conversion value type => "cannot convert " ++ value.display ++ " to " ++ type.name
  | unknownColumn table name => "table " ++ table.sql ++ " has no column " ++ Text.quoted name
  | unboundPlaceholder name => "no value bound for placeholder :" ++ name
  | selectOutside column table =>
    "cannot select " ++ column.sql ++ ": not a column of " ++ table.sql
  | orderOutside column =>
    "cannot order by " ++ column.sql ++ ": table " ++ column.table.sql ++ " is not in the query"
  | insertForeign table into => "cannot insert an instance of " ++ table.sql ++ " into " ++ into.sql
  | displayForeign table into => "cannot display an instance of " ++ table.sql ++ " as " ++ into.sql
  | settings fault => fault.message
  | connection reason => reason
  | unsendable => "error encoding message to server"
  | malformedAnswer => "error parsing response from server"
  | refused message code => "db error: " ++ message ++ " (" ++ code ++ ")"
  | parameter index => "error serializing parameter " ++ Text.naturalText index
  | parameterCount expected actual =>
    "expected " ++ Text.naturalText expected ++ " parameters but got " ++ Text.naturalText actual
  | rowLength _ expected actual =>
    "expected " ++ Text.naturalText expected ++ " columns, got " ++ Text.naturalText actual
  | cell _ fault => fault.message

/-- What stands before the cause of an error. -/
def heading : Error → String
  | rowLength table .. => "Decode error on column '" ++ table.table.text ++ "': "
  | cell column _ => "Decode error on column '" ++ column ++ "': "
  | e =>
    match e.kind with
    | .configuration => "Configuration error: "
    | .validation => "Validation error: "
    | .conversion => "Conversion error: "
    | .reference => "Reference error: "
    | .connection => "Connection error: "
    | .query => "Query error: "
    | .decode => "Decode error: "

/-- The wording of an error. -/
def message (e : Error) : String := e.heading ++ e.cause

end Error


end TypedTable
