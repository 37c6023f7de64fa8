import TypedTable.Grid
import TypedTable.Instance
/-!
# Showing rows

Rows of a declared table are shown as a text table with the names of the columns as titles. A slot
that is unset shows what it reads as; computed defaults are called anew for every row.
-/

namespace TypedTable.Schema

/-- The rows as a text table; a row is read with the evaluation of its number. Fails for the first
row that belongs to another declaration. -/
def display (s : Schema) (e : Nat → Evaluation) (rows : List Instance) : Except Error String :=
  match rows.find? (!·.isOf s) with
  | some stranger => .error (.displayForeign stranger.schema.table s.table)
  | none =>
    .ok (Grid.text ⟨s.columns.map (·.ident.text),
      rows.mapIdx fun n i => (i.cells (e n)).map Value.display⟩)

end TypedTable.Schema
