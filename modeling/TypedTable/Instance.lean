import TypedTable.Schema
/-!
# Rows of a table

An `Instance` is a row of a declared table with a slot for every column. A slot is unset or holds a
value; `Instance.set` brings the value to the column's type first. An unset slot reads as the
column's default, else as null.

A `Record` is a row as a server returns it, with its values in the order that was asked for;
`Instance.ofRecord` puts them into the slots. The number of slots is part of the type, and `slot_put`
says what writing a slot changes.
-/

namespace TypedTable

/-- A row of a result. -/
abbrev Record := List Value

/-- A row of a declared table. -/
structure Instance where
  schema : Schema
  slots : List (Option Value)
  length_slots : slots.length = schema.columns.length
deriving DecidableEq

namespace Instance

/-- A row with every slot unset. -/
def new (s : Schema) : Instance := ⟨s, s.columns.map fun _ => none, by simp⟩

/-- Whether the row fits a declaration: that of the same table, with columns of the same names in
the same order. -/
def isOf (i : Instance) (s : Schema) : Bool :=
  i.schema.table = s.table ∧ i.schema.columns.map Column.name = s.columns.map Column.name

/-- The value of the slot with this number, if it is set. -/
def slot (i : Instance) (k : Nat) : Option Value := i.slots[k]?.join

/-- The row with another content of one slot. -/
def replace (i : Instance) (k : Nat) (content : Option Value) : Instance :=
  ⟨i.schema, i.slots.set k content, by simp [i.length_slots]⟩

/-- The row with a value in one slot. -/
def put (i : Instance) (k : Nat) (v : Value) : Instance := i.replace k (some v)

/-- The row with the values that are set in another row, and its own values elsewhere. -/
def fill (i j : Instance) : Instance :=
  ⟨i.schema, i.slots.mapIdx fun k content => (j.slot k).or content, by simp [i.length_slots]⟩

/-- What the slot of a column reads as: its value, else the default of the column, else null. -/
def read (i : Instance) (e : Evaluation) (k : Fin i.schema.columns.length) : Value :=
  ((i.slot k).or ((i.schema.get k).default? e)).getD .null

/-- Sets a column to a value in the form that the column stores. -/
def set (i : Instance) (column : String) (v : Value) : Except Error Instance := do
  let k ← i.schema.index column
  let w ← (i.schema.get k).convert v
  return i.put k w

/-- Sets several columns, one after the other. -/
def setAll (i : Instance) (cells : List (String × Value)) : Except Error Instance :=
  cells.foldlM (fun i cell => i.set cell.1 cell.2) i

/-- Leaves a column without a value. -/
def unset (i : Instance) (column : String) : Except Error Instance :=
  (i.schema.index column).map fun k => i.replace k none

/-- What a column reads as. -/
def get (i : Instance) (e : Evaluation) (column : String) : Except Error Value :=
  (i.schema.index column).map (i.read e)

/-- The value that a column is set to, if it is. -/
def value (i : Instance) (column : String) : Except Error (Option Value) :=
  (i.schema.index column).map fun k => i.slot k

/-- Whether a column is set. -/
def isSet (i : Instance) (column : String) : Except Error Bool :=
  (i.value column).map Option.isSome

/-- What all columns read as, in the order of their declaration. -/
def cells (i : Instance) (e : Evaluation) : List Value :=
  (List.finRange i.schema.columns.length).map (i.read e)

/-- The row that holds the values of a result under the columns that were asked for, in the form
that the columns store. A column that was asked for more than once holds its last value. -/
def ofRecord (s : Schema) (columns : List (Fin s.columns.length)) (r : Record) :
    Except Error Instance :=
  if r.length = columns.length then
    (columns.zip r).foldlM (fun i cell => ((s.get cell.1).convert cell.2).map (i.put cell.1))
      (new s)
  else .error (.rowLength s.table columns.length r.length)

@[simp] theorem schema_replace (i : Instance) (k : Nat) (content : Option Value) :
    (i.replace k content).schema = i.schema := rfl

@[simp] theorem schema_put (i : Instance) (k : Nat) (v : Value) : (i.put k v).schema = i.schema :=
  rfl

@[simp] theorem schema_fill (i j : Instance) : (i.fill j).schema = i.schema := rfl

/-- Every slot of a new row is unset. -/
@[simp] theorem slot_new (s : Schema) (k : Nat) : (new s).slot k = none := by
  simp only [slot, new, List.getElem?_map]
  cases s.columns[k]? <;> rfl

/-- A value that is put into a slot is found there, and all other slots are as before. -/
theorem slot_put (i : Instance) {k : Nat} (l : Nat) (v : Value)
    (h : k < i.schema.columns.length) :
    (i.put k v).slot l = if k = l then some v else i.slot l := by
  have hk : k < i.slots.length := by rw [i.length_slots]; exact h
  simp only [slot, put, replace, List.getElem?_set]
  split
  · next hkl =>
    subst hkl
    simp
  · rfl

end Instance

end TypedTable
