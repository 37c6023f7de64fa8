/-!
# Lists of texts

`separated sep l` is the texts of `l` one after the other with `sep` between any two of them.
-/

namespace TypedTable.Text

/-- The texts with a separator between any two of them. -/
def separated (sep : String) : List String → String
  | [] => ""
  | [s] => s
  | s :: rest => s ++ sep ++ separated sep rest

/-- Texts in a row, each with a comma and a space in front of it but the first. -/
def commas (l : List String) : String := separated ", " l

end TypedTable.Text
