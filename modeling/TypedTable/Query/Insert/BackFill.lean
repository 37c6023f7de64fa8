import TypedTable.Query.Insert.Batch
/-!
# Taking over what was written

The rows that come back from an insertion hold what the table holds now: numbers from sequences,
defaults, random values. `BackFill.rows` copies them into the rows that were to be written.

If as many rows come back as were to be written, they go together by their order. Otherwise a row
that comes back goes to rows that have its key in their slots: under `ConflictPolicy.upsert` to all
of them, since any of them may have been the one that was sent, and otherwise to the first.

No row is added or lost, whatever comes back (`length_rows`).
-/

namespace TypedTable

namespace BackFill

/-- Whether a row has the key of a row that came back in its slots. -/
def matchesKey (s : Schema) (returned row : Instance) : Bool :=
  s.keyPositions.all fun k =>
    match returned.slot k, row.slot k with
    | some v, some w => !v.isNull && w.same v
    | _, _ => false

/-- Copies a row that came back into the first row with its key. -/
def fillFirst (s : Schema) (returned : Instance) : List Instance → List Instance
  | [] => []
  | row :: rest =>
    if matchesKey s returned row then row.fill returned :: rest
    else row :: fillFirst s returned rest

/-- Copies a row that came back into every row with its key. -/
def fillAll (s : Schema) (returned : Instance) (rows : List Instance) : List Instance :=
  rows.map fun row => if matchesKey s returned row then row.fill returned else row

/-- Copies a row that came back into the rows with its key. -/
def fillByKey (s : Schema) (policy : ConflictPolicy) (rows : List Instance)
    (returned : Instance) : List Instance :=
  match policy with
  | .doNothing => fillFirst s returned rows
  | .upsert => fillAll s returned rows

/-- Copies the rows that came back into those that were to be written. -/
def rows (s : Schema) (policy : ConflictPolicy) (rows returned : List Instance) :
    List Instance :=
  if returned.length = rows.length then List.zipWith Instance.fill rows returned
  else if s.keyPositions.isEmpty then rows
  else returned.foldl (fillByKey s policy) rows

theorem length_fillFirst (s : Schema) (returned : Instance) (rows : List Instance) :
    (fillFirst s returned rows).length = rows.length := by
  induction rows with
  | nil => rfl
  | cons row rest ih =>
    rw [fillFirst]
    split
    · rfl
    · exact congrArg (· + 1) ih

theorem length_fillByKey (s : Schema) (policy : ConflictPolicy) (rows : List Instance)
    (returned : Instance) : (fillByKey s policy rows returned).length = rows.length :=
  match policy with
  | .doNothing => length_fillFirst s returned rows
  | .upsert => List.length_map ..

theorem length_foldl_fillByKey (s : Schema) (policy : ConflictPolicy)
    (rows returned : List Instance) :
    (returned.foldl (fillByKey s policy) rows).length = rows.length := by
  induction returned generalizing rows with
  | nil => rfl
  | cons r rest ih => rw [List.foldl_cons, ih, length_fillByKey]

/-- As many rows are there after a back-fill as before. -/
theorem length_rows (s : Schema) (policy : ConflictPolicy) (before returned : List Instance) :
    (rows s policy before returned).length = before.length := by
  unfold rows
  split
  · next h => rw [List.length_zipWith, h, Nat.min_self]
  · split
    · rfl
    · exact length_foldl_fillByKey s policy before returned

end BackFill

end TypedTable
