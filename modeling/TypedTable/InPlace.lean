import TypedTable.Query.Insert
/-!
# Changes in place

A change in place works on a state step by step and may fail on the way. Nothing is taken back then:
what was written before the failure stays written.

`Instance.assign` and `Instance.clear` change a row. `InsertQuery.run` sends an insertion and takes
over what comes back, one slot after the other, into the rows that the query holds.
-/

namespace TypedTable

/-- A change of a state that may fail and leaves behind what it has written. -/
abbrev InPlace (σ α : Type) := ExceptT Error (StateM σ) α

/-- What a change gives when it starts from a state, and the state that it leaves behind. -/
def InPlace.on {σ α : Type} (x : InPlace σ α) (s : σ) : Except Error α × σ := x.run.run s

namespace Instance

/-- Sets a column to a value in the form that the column stores. -/
def assign (column : String) (v : Value) : InPlace Instance Unit := do
  let i ← getThe Instance
  let k ← i.schema.index column
  let w ← (i.schema.get k).convert v
  modify fun i => i.put k w

/-- Leaves a column without a value. -/
def clear (column : String) : InPlace Instance Unit := do
  let i ← getThe Instance
  let k ← i.schema.index column
  modify fun i => i.replace k none

end Instance

namespace InsertQuery

/-- Writes a value into a slot of the row with this number. -/
def writeSlot (j k : Nat) (v : Value) : InPlace InsertQuery Unit :=
  modify fun q => { q with rows := q.rows.modify j fun i => i.put k v }

/-- Copies the value of a slot, if it is set, into the row with this number. -/
def copySlot (returned : Instance) (j k : Nat) : InPlace InsertQuery Unit :=
  match returned.slot k with
  | some v => writeSlot j k v
  | none => pure ()

/-- Copies a row that came back, slot by slot, into the row with this number. -/
def copyRow (returned : Instance) (j : Nat) : InPlace InsertQuery Unit :=
  (List.range returned.schema.columns.length).forM (copySlot returned j)

/-- Copies a row that came back into rows with its key, going through the rows with these numbers:
under `ConflictPolicy.doNothing` the first such row is the only one. -/
def copyByKey (returned : Instance) : List Nat → InPlace InsertQuery Unit
  | [] => pure ()
  | j :: others => do
    let q ← getThe InsertQuery
    if q.rows[j]?.any (BackFill.matchesKey q.schema returned) then
      copyRow returned j
      match q.policy with
      | .doNothing => pure ()
      | .upsert => copyByKey returned others
    else copyByKey returned others

/-- Takes over the rows that came back. -/
def takeOver (records : List Record) : InPlace InsertQuery Unit := do
  let q ← getThe InsertQuery
  let positions := List.finRange q.schema.columns.length
  let returned ← (records.mapM (Instance.ofRecord q.schema positions) : Except Error _)
  if returned.length = q.rows.length then
    returned.zipIdx.forM fun (h, j) => copyRow h j
  else if q.schema.keyPositions.isEmpty then pure ()
  else returned.forM fun h => copyByKey h (List.range q.rows.length)

/-- Runs the query. Gives the number of rows that came back, and the query with its rows as they are
then, also after an error. -/
def run {σ : Type} (q : InsertQuery) (client : Client σ) (state : σ) :
    Except Error Nat × InsertQuery × σ :=
  match q.records client state with
  | (.error e, state) => (.error e, q, state)
  | (.ok records, state) =>
    let (result, q) := (takeOver records).on q
    (result.map fun _ => records.length, q, state)

end InsertQuery

end TypedTable
