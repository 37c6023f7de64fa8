import TypedTable.Error
import TypedTable.Params
/-!
# Statements and their placeholders

A `Statement` is SQL text that refers to parameters by name. A placeholder is a colon with a name of
letters, digits and underscores behind it; inside quotes, and as part of a double colon, a colon is
ordinary text. What follows a placeholder's name is the first character that cannot be part of it.

`pieces` splits a text into verbatim characters and placeholders, one character at a time, and
`Statement.positional` numbers the names in the order of their first appearance and lists the values
in that order.
-/

namespace TypedTable

/-- A part of an SQL text. -/
inductive Piece
  /-- A character that is sent as it is. -/
  | verbatim (c : Char)
  /-- A reference to a parameter. -/
  | placeholder (name : List Char)
deriving DecidableEq

/-- What the characters read so far say about the next one. -/
inductive ScanState
  | plain
  /-- Inside quotes that this character closes. -/
  | quoted (mark : Char)
  /-- Behind a colon that is outside quotes. -/
  | colon
  /-- Inside the name of a placeholder; its characters so far. -/
  | name (characters : List Char)
deriving DecidableEq

namespace ScanState

/-- Reads a character outside quotes that is no part of a name. -/
def start (c : Char) : ScanState × List Piece :=
  if c = ':' then (colon, [])
  else if c = '\'' ∨ c = '"' then (quoted c, [.verbatim c])
  else (plain, [.verbatim c])

/-- Reads one character and gives the pieces that are complete with it. -/
def step : ScanState → Char → ScanState × List Piece
  | plain, c => start c
  | quoted mark, c => (if c = mark then plain else quoted mark, [.verbatim c])
  | colon, c =>
    if c = ':' then (plain, [.verbatim ':', .verbatim ':'])
    else if isNameCharacter c then (name [c], [])
    else ((start c).1, .verbatim ':' :: (start c).2)
  | name characters, c =>
    if isNameCharacter c then (name (characters ++ [c]), [])
    else ((start c).1, .placeholder characters :: (start c).2)

/-- The piece that the end of the text completes. -/
def finish : ScanState → List Piece
  | plain | quoted _ => []
  | colon => [.verbatim ':']
  | name characters => [.placeholder characters]

/-- The pieces of a text that is read from a state on. -/
def pieces : ScanState → List Char → List Piece
  | s, [] => s.finish
  | s, c :: rest => (s.step c).2 ++ pieces (s.step c).1 rest

end ScanState

/-- The pieces of an SQL text. -/
def pieces (sql : String) : List Piece := ScanState.plain.pieces sql.toList

/-- The names of the placeholders in order of appearance, with repetitions. -/
def placeholders (ps : List Piece) : List String :=
  ps.filterMap fun
    | .verbatim _ => none
    | .placeholder name => some (String.ofList name)

/-- SQL text that refers to parameters by name. -/
structure Statement where
  sql : String
  params : Params
deriving DecidableEq

/-- SQL text with numbered parameters, and their values in order. -/
structure Positional where
  sql : String
  values : List Value
deriving DecidableEq

namespace Statement

/-- The statement without text, which does nothing. -/
def empty : Statement := ⟨"", .empty⟩

/-- Whether the text is blank, so that there is nothing to send. -/
def isEmpty (s : Statement) : Bool := (Text.trim s.sql.toList).isEmpty

/-- The names that have a number, in the order of the numbers, after one more piece was read. -/
def numbered (names : List String) : Piece → List String
  | .verbatim _ => names
  | .placeholder name =>
    if names.contains (String.ofList name) then names else names ++ [String.ofList name]

/-- A piece with the number of its name. -/
def render (names : List String) : Piece → List Char
  | .verbatim c => [c]
  | .placeholder name => '$' :: Text.natural (names.idxOf (String.ofList name) + 1)

/-- The value of a name. -/
def value (s : Statement) (name : String) : Except Error Value :=
  match s.params.get? name with
  | some v => .ok v
  | none => .error (.unboundPlaceholder name)

/-- The statement with numbers in place of names. Fails for the first name without a value. -/
def positional (s : Statement) : Except Error Positional := do
  let ps := pieces s.sql
  let names := ps.foldl numbered []
  let values ← names.mapM s.value
  return ⟨String.ofList (ps.flatMap (render names)), values⟩

end Statement

end TypedTable
