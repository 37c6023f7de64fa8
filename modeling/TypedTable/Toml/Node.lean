/-!
# The data of a TOML document

A document is a table of named nodes. How a table came to be decides what may still be added to it,
so every table keeps its `TableKind`.

Floating-point numbers and dates are checked when they are read and then only known to be there.
-/

namespace TypedTable.Toml

/-- How a table came to be. -/
inductive TableKind
  /-- By a header of its own, or as the document. -/
  | headed
  /-- By the header of a table below it. -/
  | implied
  /-- By a key of several parts. -/
  | dotted
  /-- As a value in braces. -/
  | inline
deriving DecidableEq

/-- A value in a document. -/
inductive Node
  | text (s : String)
  | integer (n : Int)
  | boolean (b : Bool)
  | float
  /-- A date, a time of day, or both. -/
  | moment
  | array (items : List Node)
  | table (kind : TableKind) (entries : List (String × Node))
  /-- Tables that share a header in double brackets. -/
  | tables (members : List (List (String × Node)))

/-- Named values. -/
abbrev Entries := List (String × Node)

end TypedTable.Toml
