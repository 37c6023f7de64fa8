import TypedTable.Instance
/-!
# Rows that are written together

The rows of one statement are written at once, and a statement must not write two rows of the same
key over each other. `Batch.keyOf` is the key that a row will be written with, as far as it is known
before the server evaluates anything, and `Batch.sent` leaves out the rows whose known key comes
again further down, so that the last row of a key is the one that is written.

Computed defaults are called twice for a row: once where its key is compared with others, and once
more where it is written. A `Batch.Entry` is a row with its number and what they give each time;
nothing says that it is the same.
-/

namespace TypedTable

/-- What becomes of a row whose key is in the table already. -/
inductive ConflictPolicy
  /-- The row is left out. -/
  | doNothing
  /-- The row replaces the one that is there. -/
  | upsert
deriving DecidableEq

namespace Batch

/-- What computed defaults give for the rows of a batch, by the numbers of the rows. -/
structure Evaluations where
  /-- Where keys are compared. -/
  compared : Nat → Evaluation := fun _ _ _ => .null
  /-- Where rows are written. -/
  bound : Nat → Evaluation := fun _ _ _ => .null

/-- A row of a batch with its number, and what the computed defaults give for it. -/
structure Entry where
  row : Instance
  number : Nat
  compared : Evaluation
  bound : Evaluation

/-- The rows of a batch with their numbers. -/
def entries (e : Evaluations) (rows : List Instance) : List Entry :=
  rows.mapIdx fun n i => ⟨i, n, e.compared n, e.bound n⟩

/-- What a column is written as if it is known: the value of the slot, else the default. -/
def written (c : Column) (e : Evaluation) (slot : Option Value) : Option Value :=
  slot.or (c.default? e)

/-- A value that can be compared before it is sent. -/
def known : Value → Option Value
  | .null | .random _ => none
  | v => some v

/-- The key that a row is compared by, if all of it is known. -/
def keyOf (s : Schema) (row : Entry) : Option (List Value) :=
  s.keyPositions.mapM fun (k : Fin s.columns.length) =>
    (written (s.get k) row.compared (row.row.slot k)).bind known

/-- Whether two keys have the same values. -/
def sameKey : List Value → List Value → Bool
  | [], [] => true
  | a :: as, b :: bs => a.same b && sameKey as bs
  | _, _ => false

/-- Whether a key is known and among other keys. -/
def occurs (key : Option (List Value)) (keys : List (Option (List Value))) : Bool :=
  match key with
  | none => false
  | some key => keys.any fun other => other.any fun other => sameKey other key

/-- For every row whether its key comes again further down. -/
def superseded : List (Option (List Value)) → List Bool
  | [] => []
  | key :: rest => occurs key rest :: superseded rest

/-- For every row whether it is left out of the statement. -/
def omitted (s : Schema) (policy : ConflictPolicy) (batch : List Entry) : List Bool :=
  match policy with
  | .doNothing => batch.map fun _ => false
  | .upsert => superseded (batch.map (keyOf s))

/-- The rows that are sent. -/
def sent (s : Schema) (policy : ConflictPolicy) (batch : List Entry) : List Entry :=
  (batch.zip (omitted s policy batch)).filterMap fun
    | (_, true) => none
    | (row, false) => some row

end Batch

end TypedTable
