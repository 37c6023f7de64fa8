import TypedTable.Text.Width
/-!
# Text tables

A `Grid` is a table of texts with a row of titles. `Grid.text` draws it with lines around all
fields. A field may have several lines; every column is as wide as its widest line, and texts stand
at the left of their field.
-/

namespace TypedTable

/-- A text with several lines, each a list of characters. -/
abbrev Field := List (List Char)

/-- The lines of a text. -/
def Field.ofText (s : String) : Field := s.toList.splitOn '\n'

/-- The number of columns that a field takes on a terminal; an empty one takes a column, too. -/
def Field.width (f : Field) : Nat := (f.map Text.width).foldl max 1

/-- A table of texts. -/
structure Grid where
  titles : List String
  rows : List (List String)
deriving DecidableEq

/-- The characters that a horizontal line is drawn with. -/
structure Rule where
  left : Char
  line : Char
  cross : Char
  right : Char

namespace Rule

/-- The line above the titles. -/
def top : Rule := ⟨'┌', '─', '┬', '┐'⟩

/-- The line below the titles. -/
def head : Rule := ⟨'╞', '═', '╪', '╡'⟩

/-- The line between two rows. -/
def between : Rule := ⟨'├', '╌', '┼', '┤'⟩

/-- The line below the last row. -/
def bottom : Rule := ⟨'└', '─', '┴', '┘'⟩

/-- The line over columns of these widths, with a space on both sides of each. -/
def text (r : Rule) (widths : List Nat) : List Char :=
  r.left :: ([r.cross].intercalate (widths.map fun w => List.replicate (w + 2) r.line)) ++ [r.right]

end Rule

namespace Grid

/-- All rows with the titles in front. -/
def fields (g : Grid) : List (List Field) := (g.titles :: g.rows).map (·.map Field.ofText)

/-- The widths of the columns. -/
def widths (g : Grid) : List Nat :=
  (List.range g.titles.length).map fun k =>
    (g.fields.map fun row => (row.getD k []).width).foldl max 1

/-- A line of a field, filled up with spaces to a width. -/
def filled (w : Nat) (line : List Char) : List Char :=
  line ++ List.replicate (w - Text.width line) ' '

/-- The lines of a row: as many as its highest field has. -/
def rowLines (widths : List Nat) (row : List Field) : List (List Char) :=
  let height := (row.map List.length).foldl max 0
  (List.range height).map fun k =>
    '│' :: ' ' :: (" ┆ ".toList.intercalate
      (List.zipWith (fun w field => filled w (field.getD k [])) widths row)) ++ [' ', '│']

/-- The lines of the table. -/
def lines (g : Grid) : List (List Char) :=
  let widths := g.widths
  let rows := g.fields.map (rowLines widths)
  [Rule.top.text widths] ++ rows.headD [] ++ [Rule.head.text widths] ++
    [Rule.between.text widths].intercalate rows.tail ++ [Rule.bottom.text widths]

/-- The table as a text, without a line break at its end. -/
def text (g : Grid) : String := String.ofList (['\n'].intercalate g.lines)

end Grid

end TypedTable
