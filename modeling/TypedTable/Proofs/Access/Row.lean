import TypedTable.Proofs.Schema.Declared
import TypedTable.Proofs.InPlace
/-!
# Rows whose slots are reached by place

An `Instance` has a slot for every column by its type, and a slot that is not there reads as unset.
A `BareRow` has neither: its slots are a list of any length, and whoever goes for a place that is
not there is stopped. `Access` are the computations that can be stopped in that way. Places are
plain numbers, and those of the key are counted once from the columns (`Schema.keyPlaces`).

`EndsAs` compares both: a computation over bare rows goes for places that are there only, and ends
with what the one over instances ends with. It is kept by everything computations are put together
with (`EndsAs.bind`, `EndsAs.mapM`, `EndsAs.foldlM`). All that is done with a single row ends as its
counterpart does (`endsAs_set`, `endsAs_get`, `endsAs_ofRecord`).
-/

namespace TypedTable

/-- A computation that goes for members of lists by their place. It ends with a value or an error,
or is stopped at a place that is not there. -/
abbrev Access (α : Type) := ExceptT Error Option α

namespace Access

variable {α β γ δ α' β' : Type}

/-- A computation that goes for no place. -/
def ofResult (y : Except Error α) : Access α := ExceptT.mk (some y)

/-- The member of a list at a place. -/
def pick (l : List α) (k : Nat) : Access α := ExceptT.mk (l[k]?.map .ok)

/-- The members of a list from a place on; the place behind the last one is still there. -/
def dropTo (l : List α) (k : Nat) : Access (List α) :=
  if k ≤ l.length then pure (l.drop k) else ExceptT.mk none

/-- Whether a computation goes for places that are there only, and ends with this result but for the
form of its value. -/
def EndsAs (x : Access α) (form : β → α) (y : Except Error β) : Prop := x = ofResult (y.map form)

theorem EndsAs.run_eq {x : Access α} {form : β → α} {y : Except Error β} (h : EndsAs x form y) :
    x.run = some (y.map form) := h

theorem endsAs_pure (form : β → α) (b : β) : EndsAs (pure (form b)) form (.ok b) := rfl

theorem endsAs_ofResult (y : Except Error α) : EndsAs (ofResult y) id y := by
  cases y <;> rfl

theorem endsAs_pick {l : List α} {k : Nat} {a : α} (h : l[k]? = some a) :
    EndsAs (pick l k) id (.ok a) := by
  rw [EndsAs, pick, h]
  rfl

theorem endsAs_dropTo {l : List α} {k : Nat} (h : k ≤ l.length) :
    EndsAs (dropTo l k) id (.ok (l.drop k)) := by
  rw [EndsAs, dropTo, if_pos h]
  rfl

/-- Computations follow each other as their results do. -/
theorem EndsAs.bind {x : Access α} {form : β → α} {y : Except Error β} {f : α → Access α'}
    {form' : β' → α'} {g : β → Except Error β'} (hx : EndsAs x form y)
    (hf : ∀ b, y = .ok b → EndsAs (f (form b)) form' (g b)) : EndsAs (x >>= f) form' (y >>= g) := by
  unfold EndsAs at hx
  subst hx
  cases y with
  | error e => rfl
  | ok b => exact hf b rfl

/-- The same for a result whose value is only put into another form. -/
theorem EndsAs.bind_map {x : Access α} {form : β → α} {y : Except Error β} {f : α → Access α'}
    {form' : β' → α'} {g : β → β'} (hx : EndsAs x form y)
    (hf : ∀ b, EndsAs (f (form b)) form' (.ok (g b))) : EndsAs (x >>= f) form' (y.map g) := by
  unfold EndsAs at hx
  subst hx
  cases y with
  | error e => rfl
  | ok b => exact hf b

/-- What is done with a value that is there at once. -/
theorem EndsAs.bind_ok {x : Access α} {form : β → α} {b : β} {f : α → Access α'} {form' : β' → α'}
    {y : Except Error β'} (hx : EndsAs x form (.ok b)) (hf : EndsAs (f (form b)) form' y) :
    EndsAs (x >>= f) form' y := by
  unfold EndsAs at hx
  subst hx
  exact hf

/-- A list is gone through as the list of what its members stand for. -/
theorem EndsAs.mapM {l : List δ} {place : δ → γ} {f : γ → Access α} {form : β → α}
    {g : δ → Except Error β} (h : ∀ d ∈ l, EndsAs (f (place d)) form (g d)) :
    EndsAs ((l.map place).mapM f) (List.map form) (l.mapM g) := by
  induction l with
  | nil => rfl
  | cons d l ih =>
    obtain ⟨hd, hl⟩ := List.forall_mem_cons.1 h
    rw [List.map_cons, List.mapM_cons, List.mapM_cons]
    exact hd.bind fun b _ => (ih hl).bind fun bs _ => rfl

/-- The same for steps that go on from each other, if each keeps what the next one needs. -/
theorem EndsAs.foldlM {l : List δ} {place : δ → γ} {f : α → γ → Access α} {form : β → α}
    {g : β → δ → Except Error β} {P : β → Prop}
    (hends : ∀ d ∈ l, ∀ b, P b → EndsAs (f (form b) (place d)) form (g b d))
    (hkeeps : ∀ d ∈ l, ∀ b b', P b → g b d = .ok b' → P b') {b : β} (hb : P b) :
    EndsAs ((l.map place).foldlM f (form b)) form (l.foldlM g b) := by
  induction l generalizing b with
  | nil => rfl
  | cons d l ih =>
    obtain ⟨hd, hl⟩ := List.forall_mem_cons.1 hends
    obtain ⟨hd', hl'⟩ := List.forall_mem_cons.1 hkeeps
    rw [List.map_cons, List.foldlM_cons, List.foldlM_cons]
    exact (hd b hb).bind fun b' hb' => ih hl hl' (hd' b b' hb hb')

/-- A list is gone through by itself. -/
theorem EndsAs.mapM_self {l : List γ} {f : γ → Access α} {form : β → α} {g : γ → Except Error β}
    (h : ∀ c ∈ l, EndsAs (f c) form (g c)) : EndsAs (l.mapM f) (List.map form) (l.mapM g) := by
  have hends : EndsAs ((l.map id).mapM f) (List.map form) (l.mapM g) := .mapM h
  rwa [List.map_id] at hends

/-- The same for steps that go on from each other. -/
theorem EndsAs.foldlM_self {l : List γ} {f : α → γ → Access α} {form : β → α}
    {g : β → γ → Except Error β} (h : ∀ c ∈ l, ∀ b, EndsAs (f (form b) c) form (g b c)) (b : β) :
    EndsAs (l.foldlM f (form b)) form (l.foldlM g b) := by
  have hends : EndsAs ((l.map id).foldlM f (form b)) form (l.foldlM g b) :=
    .foldlM (P := fun _ => True) (fun c hc b _ => h c hc b) (fun _ _ _ _ _ _ => trivial) trivial
  rwa [List.map_id] at hends

/-- A list is gone through with a value for every member. -/
theorem EndsAs.mapM_ok {l : List δ} {place : δ → γ} {f : γ → Access α} {g : δ → α}
    (h : ∀ d ∈ l, EndsAs (f (place d)) id (.ok (g d))) :
    EndsAs ((l.map place).mapM f) id (.ok (l.map g)) := by
  induction l with
  | nil => rfl
  | cons d l ih =>
    obtain ⟨hd, hl⟩ := List.forall_mem_cons.1 h
    rw [List.map_cons, List.mapM_cons]
    exact hd.bind_ok ((ih hl).bind_ok rfl)

/-- The same for steps that go on from each other. -/
theorem EndsAs.foldlM_ok {l : List δ} {f : α → δ → Access α} {form : β → α} {g : β → δ → β}
    {P : β → Prop} (hends : ∀ d ∈ l, ∀ b, P b → EndsAs (f (form b) d) form (.ok (g b d)))
    (hkeeps : ∀ d ∈ l, ∀ b, P b → P (g b d)) {b : β} (hb : P b) :
    EndsAs (l.foldlM f (form b)) form (.ok (l.foldl g b)) := by
  induction l generalizing b with
  | nil => rfl
  | cons d l ih =>
    obtain ⟨hd, hl⟩ := List.forall_mem_cons.1 hends
    obtain ⟨hd', hl'⟩ := List.forall_mem_cons.1 hkeeps
    rw [List.foldlM_cons]
    exact (hd b hb).bind_ok (ih hl hl' (hd' b hb))

end Access

open Access

/-! ### Places of columns -/

namespace Schema

/-- The place of the column with this name, or an error that names it. -/
def place (s : Schema) (name : String) : Except Error Nat :=
  match s.columns.findIdx? (·.ident.text = name) with
  | some k => .ok k
  | none => .error (.unknownColumn s.table name)

/-- The place of a column, if it belongs to the table. -/
def placeOf (s : Schema) (c : Column) : Option Nat :=
  if c.table = s.table then s.columns.findIdx? (·.isSame c) else none

/-- The places of the columns of the primary key. -/
def keyPlaces (s : Schema) : List Nat :=
  (s.columns.zipIdx.filter fun e => e.1.primaryKey).map Prod.snd

/-- The columns of the primary key, found by their places. -/
def keyColumns (s : Schema) : Access (List Column) := s.keyPlaces.mapM (pick s.columns)

/-- The statement that makes the table, with the columns of the key found by their places. -/
def createTableByPlaces (s : Schema) : Access String := do
  let keys ← s.keyColumns
  let key := if keys.isEmpty then []
    else ["PRIMARY KEY (" ++ Text.commas (keys.map (·.ident.sql)) ++ ")"]
  return "CREATE TABLE IF NOT EXISTS " ++ s.table.sql ++ " (" ++
    Text.commas (s.columns.map Column.definition ++ key) ++ ")"

variable {s : Schema}

theorem place_eq (s : Schema) (name : String) : s.place name = (s.index name).map Fin.val := by
  unfold place index index?
  rw [List.findIdx?_eq_map_findFinIdx?_val]
  cases s.columns.findFinIdx? (·.ident.text = name) <;> rfl

theorem endsAs_place (s : Schema) (name : String) :
    EndsAs (ofResult (s.place name)) Fin.val (s.index name) := by
  rw [EndsAs, place_eq]

theorem placeOf_eq (s : Schema) (c : Column) :
    s.placeOf c = (s.position? c.name).map Fin.val := by
  unfold placeOf
  split
  · exact List.findIdx?_eq_map_findFinIdx?_val
  · next htable =>
    -- A column of another table has no place.
    cases hfind : s.position? c.name with
    | none => rfl
    | some k => exact absurd (position?_eq_some_iff.1 hfind).1 htable

theorem zipIdx_columns (s : Schema) :
    s.columns.zipIdx =
      (List.finRange s.columns.length).map fun (k : Fin s.columns.length) => (s.get k, (k : Nat)) := by
  refine List.ext_getElem (by simp) fun k hk hk' => ?_
  simp [get_eq_getElem]

theorem keyPlaces_eq (s : Schema) : s.keyPlaces = s.keyPositions.map Fin.val := by
  unfold keyPlaces keyPositions
  rw [zipIdx_columns, List.filter_map, List.map_map]
  rfl

theorem range_eq_map (s : Schema) :
    List.range s.columns.length = (List.finRange s.columns.length).map Fin.val := by
  simp

theorem endsAs_column (k : Fin s.columns.length) :
    EndsAs (pick s.columns k) id (.ok (s.get k)) :=
  endsAs_pick (List.getElem?_eq_getElem k.isLt)

/-- The places of the key are there. -/
theorem endsAs_keyColumns (s : Schema) : EndsAs s.keyColumns id (.ok s.primaryKey) := by
  rw [keyColumns, keyPlaces_eq, primaryKey_eq_map]
  exact .mapM_ok fun k _ => endsAs_column k

theorem isEmpty_primaryKey (s : Schema) : s.primaryKey.isEmpty = !s.hasPrimaryKey := by
  rw [Bool.eq_iff_iff]
  simp [primaryKey, hasPrimaryKey]

theorem isEmpty_keyPlaces (s : Schema) : s.keyPlaces.isEmpty = !s.hasPrimaryKey := by
  rw [← isEmpty_primaryKey, primaryKey_eq_map, keyPlaces_eq, List.isEmpty_map, List.isEmpty_map]

/-- The statement that makes a table goes for places that are there only. -/
theorem endsAs_createTable (s : Schema) : EndsAs s.createTableByPlaces id (.ok s.createTable) := by
  unfold createTableByPlaces createTable
  refine s.endsAs_keyColumns.bind_ok ?_
  have hkey : (if s.primaryKey.isEmpty then [] else ["PRIMARY KEY (" ++ s.keyList ++ ")"]) =
      if s.hasPrimaryKey then ["PRIMARY KEY (" ++ s.keyList ++ ")"] else [] := by
    rw [s.isEmpty_primaryKey]
    cases s.hasPrimaryKey <;> rfl
  rw [← hkey]
  exact endsAs_pure id _

end Schema

/-! ### Bare rows -/

/-- A row whose slots are a list of any length. -/
structure BareRow where
  schema : Schema
  slots : List (Option Value)
deriving DecidableEq

namespace BareRow

/-- Whether a row has exactly one slot for every column. -/
def IsComplete (r : BareRow) : Prop := r.slots.length = r.schema.columns.length

/-- A row with every slot unset. -/
def new (s : Schema) : BareRow := ⟨s, List.replicate s.columns.length none⟩

/-- Whether the row fits a declaration. -/
def isOf (r : BareRow) (s : Schema) : Bool :=
  r.schema.table = s.table ∧ r.schema.columns.map Column.name = s.columns.map Column.name

/-- The content of the slot at a place. -/
def slot (r : BareRow) (k : Nat) : Access (Option Value) := pick r.slots k

/-- The row with another content of the slot at a place. -/
def write (r : BareRow) (k : Nat) (content : Option Value) : Access BareRow :=
  if k < r.slots.length then pure { r with slots := r.slots.set k content } else ExceptT.mk none

/-- What the slot at a place reads as: its value, else the default of the column, else null. -/
def read (r : BareRow) (e : Evaluation) (k : Nat) : Access Value := do
  match ← r.slot k with
  | some v => pure v
  | none => return ((← pick r.schema.columns k).default? e).getD .null

/-- Sets a column to a value in the form that the column stores. -/
def set (r : BareRow) (column : String) (v : Value) : Access BareRow := do
  let k ← ofResult (r.schema.place column)
  let c ← pick r.schema.columns k
  let w ← ofResult (c.convert v)
  r.write k (some w)

/-- Sets several columns, one after the other. -/
def setAll (r : BareRow) (cells : List (String × Value)) : Access BareRow :=
  cells.foldlM (fun r cell => r.set cell.1 cell.2) r

/-- Leaves a column without a value. -/
def unset (r : BareRow) (column : String) : Access BareRow := do
  let k ← ofResult (r.schema.place column)
  r.write k none

/-- What a column reads as. -/
def get (r : BareRow) (e : Evaluation) (column : String) : Access Value := do
  let k ← ofResult (r.schema.place column)
  r.read e k

/-- The value that a column is set to, if it is. -/
def value (r : BareRow) (column : String) : Access (Option Value) := do
  let k ← ofResult (r.schema.place column)
  r.slot k

/-- What the slots at the places of a declaration read as. -/
def cells (r : BareRow) (s : Schema) (e : Evaluation) : Access (List Value) :=
  (List.range s.columns.length).mapM (r.read e)

/-- Puts a value into the slot at the place of a column, in the form that the column stores. -/
def putCell (s : Schema) (r : BareRow) (cell : Nat × Value) : Access BareRow := do
  let c ← pick s.columns cell.1
  let w ← ofResult (c.convert cell.2)
  r.write cell.1 (some w)

/-- The row that holds the values of a result at the places that were asked for. -/
def ofRecord (s : Schema) (places : List Nat) (r : Record) : Access BareRow :=
  if r.length = places.length then (places.zip r).foldlM (putCell s) (new s)
  else throw (.rowLength s.table places.length r.length)

/-- Whoever goes for a slot is stopped exactly where there is none. -/
theorem slot_eq_none_iff {r : BareRow} {k : Nat} :
    (r.slot k).run = none ↔ r.slots.length ≤ k := by
  unfold slot pick
  rw [ExceptT.run_mk, Option.map_eq_none_iff, List.getElem?_eq_none_iff]

end BareRow

/-! ### What is done with a row -/

namespace Instance

/-- The row without the knowledge of how many slots it has. -/
def bare (i : Instance) : BareRow := ⟨i.schema, i.slots⟩

theorem isComplete_bare (i : Instance) : i.bare.IsComplete := i.length_slots

theorem bare_new (s : Schema) : (new s).bare = .new s := by
  simp [new, bare, BareRow.new, List.map_const']

theorem isOf_bare (i : Instance) (s : Schema) : i.bare.isOf s = i.isOf s := rfl

/-- A row that fits a declaration has as many columns. -/
theorem length_columns_of_isOf {i : Instance} {s : Schema} (h : i.isOf s = true) :
    s.columns.length = i.schema.columns.length := by
  have hnames := (decide_eq_true_iff.1 h).2
  simpa using (congrArg List.length hnames).symm

variable {i : Instance}

theorem endsAs_slot {k : Nat} (h : k < i.schema.columns.length) :
    EndsAs (i.bare.slot k) id (.ok (i.slot k)) := by
  have hk : k < i.slots.length := by rw [i.length_slots]; exact h
  refine endsAs_pick ?_
  simp [bare, slot, List.getElem?_eq_getElem hk]

theorem endsAs_write {k : Nat} (h : k < i.schema.columns.length) (content : Option Value) :
    EndsAs (i.bare.write k content) bare (.ok (i.replace k content)) := by
  have hk : k < i.bare.slots.length := by rw [i.isComplete_bare]; exact h
  rw [EndsAs, BareRow.write, if_pos hk]
  rfl

theorem endsAs_read (e : Evaluation) (k : Fin i.schema.columns.length) :
    EndsAs (i.bare.read e k) id (.ok (i.read e k)) := by
  refine (endsAs_slot k.isLt).bind_ok ?_
  unfold read
  cases i.slot k with
  | some v => rfl
  | none => exact (Schema.endsAs_column k).bind_ok rfl

theorem endsAs_set (i : Instance) (column : String) (v : Value) :
    EndsAs (i.bare.set column v) bare (i.set column v) :=
  (i.schema.endsAs_place column).bind fun k _ => (Schema.endsAs_column k).bind_ok
    ((endsAs_ofResult _).bind fun w _ => endsAs_write k.isLt (some w))

theorem endsAs_setAll (i : Instance) (cells : List (String × Value)) :
    EndsAs (i.bare.setAll cells) bare (i.setAll cells) :=
  .foldlM_self (fun cell _ j => endsAs_set j cell.1 cell.2) i

theorem endsAs_unset (i : Instance) (column : String) :
    EndsAs (i.bare.unset column) bare (i.unset column) := by
  have hunset : i.unset column = i.schema.index column >>= fun k => .ok (i.replace k none) := by
    unfold unset
    cases i.schema.index column <;> rfl
  rw [hunset]
  exact (i.schema.endsAs_place column).bind fun k _ => endsAs_write k.isLt none

theorem endsAs_get (i : Instance) (e : Evaluation) (column : String) :
    EndsAs (i.bare.get e column) id (i.get e column) :=
  (i.schema.endsAs_place column).bind_map fun k => endsAs_read e k

theorem endsAs_value (i : Instance) (column : String) :
    EndsAs (i.bare.value column) id (i.value column) := by
  have hvalue : i.value column = i.schema.index column >>= fun k => .ok (i.slot k) := by
    unfold value
    cases i.schema.index column <;> rfl
  rw [hvalue]
  exact (i.schema.endsAs_place column).bind fun k _ => endsAs_slot k.isLt

/-- A row that fits a declaration is shown at the places of that declaration. -/
theorem endsAs_cells {s : Schema} (h : i.isOf s = true) (e : Evaluation) :
    EndsAs (i.bare.cells s e) id (.ok (i.cells e)) := by
  rw [BareRow.cells, length_columns_of_isOf h, Schema.range_eq_map]
  exact .mapM_ok fun k _ => endsAs_read e k

/-- A row is made of a record at places of its own declaration. -/
theorem endsAs_ofRecord (s : Schema) (positions : List (Fin s.columns.length)) (r : Record) :
    EndsAs (BareRow.ofRecord s (positions.map Fin.val) r) bare (ofRecord s positions r) := by
  unfold BareRow.ofRecord ofRecord
  rw [List.length_map]
  split
  · have hzip : (positions.map Fin.val).zip r = (positions.zip r).map (Prod.map Fin.val id) :=
      List.zip_map_left ..
    rw [hzip, ← bare_new]
    refine .foldlM (P := fun i => i.schema = s) (fun cell _ i hi => ?_) (fun cell _ i j hi hj => ?_)
      rfl
    · exact (Schema.endsAs_column cell.1).bind_ok ((endsAs_ofResult _).bind_map fun w =>
        endsAs_write (hi ▸ cell.1.isLt) (some w))
    · obtain ⟨w, -, rfl⟩ := map_eq_ok.1 hj
      exact hi
  · rfl

end Instance

end TypedTable
