import TypedTable.Proofs.Rendering.Insertion
/-!
# The tuples of an insertion

The statement of an insertion lists a tuple for every row that is sent, and a tuple has a text for
every column. `InsertCell.Shows` says which text stands for a slot: SQL text of its own, `DEFAULT`
where there is nothing to write, and otherwise a placeholder whose parameter is the value that the
column makes of the slot. Where a slot is unset this is the column's default; a computed one counts
with what it gives for the row where the statement is written.

`Insert.Presents` puts this together with the names of the parameters: they are those of the cells
that bind a value, and no two cells share one. `Insert.presents_of_build` says that the statement of
every insertion that is built presents its rows.
-/

namespace TypedTable

/-! ### What stands for a slot -/

namespace InsertCell

/-- Whether a text stands for the slot of a column in the row with this number, given what computed
defaults give for the row. -/
inductive Shows (params : Params) (c : Column) (row : Nat) (e : Evaluation) (slot : Option Value) :
    String → Prop
  /-- Nothing is to be written. -/
  | absent : slot = none → c.default = none → Shows params c row e slot "DEFAULT"
  /-- The server evaluates the value. -/
  | random {sql : String} : Batch.written c e slot = some (.random sql) →
      Shows params c row e slot sql
  /-- The value is sent in the form that the column stores. -/
  | bound {v w : Value} : Batch.written c e slot = some v → v.random? = none →
      c.validate v = .ok w → params.get? (boundName c row) = some w →
      Shows params c row e slot (":" ++ boundName c row)

section

variable {c : Column} {e : Evaluation} {slot : Option Value} {row : Nat}

/-- Nothing is written exactly if nothing is given and nothing stands in for it. -/
theorem written_eq_none_iff : Batch.written c e slot = none ↔ slot = none ∧ c.default = none := by
  unfold Batch.written Column.default?
  rw [Option.or_eq_none_iff, Option.map_eq_none_iff]

theorem random?_eq_none_iff {v : Value} : v.random? = none ↔ ∀ sql, v ≠ .random sql := by
  cases v <;> simp [Value.random?]

/-- A column makes a value of its own kind of what is not evaluated by the server. -/
theorem random?_of_validate {v w : Value} (h : c.validate v = .ok w) :
    v.random? = none ↔ ∀ sql, w ≠ .random sql := by
  rw [random?_eq_none_iff]
  refine forall_congr' fun sql => not_congr ⟨?_, ?_⟩
  · rintro rfl
    exact Except.ok.inj (h.symm.trans (Column.validate_eq_random.2 rfl))
  · rintro rfl
    exact Column.validate_eq_random.1 h

/-- Where `DEFAULT` stands there is nothing to write, or it is the SQL text that was given. -/
theorem Shows.eq_default_iff {params : Params} {text : String}
    (h : Shows params c row e slot text) :
    text = "DEFAULT" ↔ (slot = none ∧ c.default = none) ∨
      Batch.written c e slot = some (.random "DEFAULT") := by
  rw [← @written_eq_none_iff c e]
  cases h with
  | absent hslot hdefault =>
    have hwritten : Batch.written c e slot = none := written_eq_none_iff.2 ⟨hslot, hdefault⟩
    exact ⟨fun _ => .inl hwritten, fun _ => rfl⟩
  | random hwritten =>
    rw [hwritten]
    simp
  | bound hwritten hrandom =>
    -- A placeholder begins with a colon.
    have hcolon : ":" ++ boundName c row ≠ "DEFAULT" := by
      intro heq
      have hchars := congrArg (fun s : String => s.toList.head?) heq
      simp at hchars
    rw [hwritten]
    refine iff_of_false hcolon ?_
    rintro (hnone | hdefault)
    · exact absurd hnone (by simp)
    · cases hdefault
      exact absurd hrandom (by simp [Value.random?])

/-- A cell shows the slot that it was made of, if its value is bound. -/
theorem shows_of_ofSlot {params : Params} {cell : InsertCell} (h : ofSlot row c e slot = .ok cell)
    (hbound : ∀ name v, cell = .bound name v → params.get? name = some v) :
    Shows params c row e slot cell.sql := by
  obtain ⟨hwritten, rfl⟩ | ⟨v, hwritten, ⟨sql, rfl, rfl⟩ | ⟨w, hvalidate, hrandom, rfl⟩⟩ :=
    ofSlot_cases h
  · obtain ⟨hslot, hdefault⟩ := written_eq_none_iff.1 hwritten
    exact .absent hslot hdefault
  · exact .random hwritten
  · exact .bound hwritten ((random?_of_validate hvalidate).2 hrandom) hvalidate
      (hbound _ _ rfl)

/-- The name of a cell that binds a value. -/
theorem mem_bindings_of_ofSlot {cell : InsertCell} (h : ofSlot row c e slot = .ok cell)
    {name : String} : name ∈ entryNames cell.bindings ↔
      (∃ v, Batch.written c e slot = some v ∧ v.random? = none) ∧ name = boundName c row := by
  obtain ⟨hwritten, rfl⟩ | ⟨v, hwritten, ⟨sql, rfl, rfl⟩ | ⟨w, hvalidate, hrandom, rfl⟩⟩ :=
    ofSlot_cases h
  · simp [bindings, entryNames, hwritten]
  · simp [bindings, entryNames, hwritten, Value.random?]
  · have hv : v.random? = none := (random?_of_validate hvalidate).2 hrandom
    simp [bindings, entryNames, hwritten, hv]

end

end InsertCell

/-! ### What stands for the rows -/

namespace Insert

/-- What a statement for rows says, given the rows that are sent. -/
structure Presents (s : Schema) (policy : ConflictPolicy) (sent : List Batch.Entry)
    (statement : Statement) (tuples : List (List String)) : Prop where
  /-- The tuples stand between two lists of the columns. -/
  sql_eq : statement.sql =
    "INSERT INTO " ++ s.table.sql ++ " (" ++ Text.commas (s.columns.map (·.ident.sql)) ++
      ") VALUES " ++ Text.commas (tuples.map fun tuple => "(" ++ Text.commas tuple ++ ")") ++
      conflict s policy ++ " RETURNING " ++ Text.commas (s.columns.map (·.ident.sql))
  /-- There is a tuple for every row and a text for every column, in order. -/
  shows : sent.Forall₂ (fun row tuple => (List.finRange s.columns.length).Forall₂ (fun k text =>
    InsertCell.Shows statement.params (s.get k) row.number row.bound (row.row.slot k) text) tuple)
    tuples
  /-- `DEFAULT` stands where nothing is given and nothing stands in for it; it may also be the SQL
  text of a value. -/
  default_iff : sent.Forall₂ (fun row tuple => (List.finRange s.columns.length).Forall₂
    (fun k text => text = "DEFAULT" ↔ (row.row.slot k = none ∧ (s.get k).default = none) ∨
      Batch.written (s.get k) row.bound (row.row.slot k) = some (.random "DEFAULT")) tuple) tuples
  /-- Cells of different rows or columns have different names. -/
  name_injective : ∀ row ∈ sent, ∀ row' ∈ sent, ∀ k k' : Fin s.columns.length,
    InsertCell.boundName (s.get k) row.number = InsertCell.boundName (s.get k') row'.number →
      row = row' ∧ k = k'
  /-- The parameters are the values that are not evaluated by the server. -/
  mem_names_iff : ∀ name, name ∈ statement.params.names ↔
    ∃ row ∈ sent, ∃ k : Fin s.columns.length,
      (∃ v, Batch.written (s.get k) row.bound (row.row.slot k) = some v ∧ v.random? = none) ∧
        name = InsertCell.boundName (s.get k) row.number

variable {s : Schema} {policy : ConflictPolicy} {batch : List Batch.Entry}

section

variable {cells : List (List InsertCell)}
  (h : (Batch.sent s policy batch).mapM (Insert.cells s) = .ok cells)

include h

/-- The names of the parameters are those of the cells that bind a value. -/
theorem mem_names_statement_iff {name : String} :
    name ∈ (statement s policy cells).params.names ↔
      ∃ row ∈ Batch.sent s policy batch, ∃ k : Fin s.columns.length,
        (∃ v, Batch.written (s.get k) row.bound (row.row.slot k) = some v ∧ v.random? = none) ∧
          name = InsertCell.boundName (s.get k) row.number := by
  have hcells := mapM_eq_ok_iff.1 h
  have hnames : name ∈ (statement s policy cells).params.names ↔
      ∃ cell ∈ cells.flatten, name ∈ entryNames cell.bindings := by
    show name ∈ (cells.flatten.foldl InsertCell.addTo .empty).names ↔ _
    rw [Params.foldl_eq_insertAll InsertCell.addTo_eq_insertAll, Params.mem_names_insertAll,
      or_iff_left (show name ∉ Params.empty.names from List.not_mem_nil)]
    simp only [entryNames, List.map_flatMap, List.mem_flatMap]
  rw [hnames]
  constructor
  · rintro ⟨cell, hcell, hname⟩
    obtain ⟨row, hrow, k, hk⟩ := (mem_cells_iff h).1 hcell
    exact ⟨row, hrow, k, (InsertCell.mem_bindings_of_ofSlot hk).1 hname⟩
  · rintro ⟨row, hrow, k, hwritten⟩
    obtain ⟨tuple, -, htuple⟩ := exists_of_mem_right hcells.flip hrow
    obtain ⟨cell, -, hk⟩ :=
      exists_of_mem_right (mapM_eq_ok_iff.1 htuple).flip (List.mem_finRange k)
    exact ⟨cell, (mem_cells_iff h).2 ⟨row, hrow, k, hk⟩,
      (InsertCell.mem_bindings_of_ofSlot hk).2 hwritten⟩

variable (hnumbered : Batch.Numbered batch)

include hnumbered

/-- The texts of a row of cells show the slots of the row. -/
theorem shows_cells {row : Batch.Entry} {tuple : List InsertCell} (htuple : tuple ∈ cells)
    (hcells : Insert.cells s row = .ok tuple) :
    (List.finRange s.columns.length).Forall₂ (fun k text => InsertCell.Shows
      (statement s policy cells).params (s.get k) row.number row.bound (row.row.slot k) text)
      (tuple.map InsertCell.sql) := by
  rw [List.forall₂_map_right_iff]
  have hmem := (List.forall₂_and_left (p := (· ∈ tuple)) _ _).2
    ⟨fun _ hcell => hcell, (mapM_eq_ok_iff.1 hcells).flip⟩
  refine hmem.flip.imp fun k cell hk => InsertCell.shows_of_ofSlot hk.2 ?_
  rintro name v rfl
  exact get?_of_mem_cells h hnumbered htuple hk.1

/-- The statement for rows of cells presents the rows. -/
theorem presents_statement : Presents s policy (Batch.sent s policy batch)
    (statement s policy cells) (cells.map (·.map InsertCell.sql)) := by
  have hshows : (Batch.sent s policy batch).Forall₂ (fun row tuple =>
      (List.finRange s.columns.length).Forall₂ (fun k text => InsertCell.Shows
        (statement s policy cells).params (s.get k) row.number row.bound (row.row.slot k) text)
        tuple) (cells.map (·.map InsertCell.sql)) := by
    rw [List.forall₂_map_right_iff]
    have hmem := (List.forall₂_and_left (p := (· ∈ cells)) _ _).2
      ⟨fun _ htuple => htuple, (mapM_eq_ok_iff.1 h).flip⟩
    exact hmem.flip.imp fun row tuple htuple => shows_cells h hnumbered htuple.1 htuple.2
  have hsent := (Batch.sent_sublist (s := s) policy batch).subset
  refine ⟨?_, hshows, ?_, ?_, ?_⟩
  · rw [List.map_map]
    rfl
  · exact hshows.imp fun row tuple htuple => htuple.imp fun k text => (·.eq_default_iff)
  · intro row hrow row' hrow' k k' hname
    exact boundName_injective hnumbered (hsent hrow) (hsent hrow') hname
  · intro name
    exact mem_names_statement_iff h

end

/-- The statement of an insertion that is built presents the rows that are sent: all of them, or, if
rows replace each other, the last one of every key. -/
theorem presents_of_build {q : Insert} {b : InsertQuery} (hcolumns : q.schema.columns ≠ [])
    (hrows : q.rows ≠ []) (hbuild : q.build = .ok b) :
    ∃ sent tuples, Presents q.schema q.policy sent b.statement tuples ∧
      (q.policy = .doNothing → sent = q.batch) ∧
      (q.policy = .upsert → Batch.Sends q.schema q.batch sent) := by
  have hnumbered : Batch.Numbered q.batch := Batch.numbered_entries _ _
  obtain ⟨-, hrender, -⟩ := build_eq_ok hbuild
  obtain ⟨hrows' | hcolumns', -⟩ | ⟨cells, hcells, hstatement⟩ := render_eq_ok hrender
  · exact absurd hrows' hrows
  · exact absurd hcolumns' hcolumns
  · rw [hstatement]
    refine ⟨_, _, presents_statement hcells hnumbered, ?_, ?_⟩
    · intro hpolicy
      rw [hpolicy, Batch.sent_doNothing]
    · intro hpolicy
      rw [hpolicy]
      exact Batch.sends_sent hnumbered

end Insert

/-! ### A batch with one key twice -/

namespace Guestbook

/-- The table of the columns. -/
def table : TableName := ⟨⟨"inn", by decide, by decide⟩, ⟨"guests", by decide, by decide⟩⟩

def key : Column where
  name := ⟨table, ⟨"guest", by decide, by decide⟩⟩
  type := .serial
  primaryKey := true
  unique := true
  notNull := true
  default := none
  foreignKey := none

def remark : Column where
  name := ⟨table, ⟨"remark", by decide, by decide⟩⟩
  type := .text
  primaryKey := false
  unique := false
  notNull := false
  default := some (.computed 0)
  foreignKey := none

def schema : Schema where
  table := table
  columns := [key, remark]
  table_eq := by decide
  nodup := by decide

/-- A guest without a remark, who gets a computed one. -/
def quiet : Instance := (Instance.new schema).put 0 (.integer 1)

/-- A guest whose number is left to the sequence, with a remark that the server makes. -/
def anonymous : Instance := (Instance.new schema).put 1 (.random "VERSION()")

/-- The same guest with a remark. -/
def remarked : Instance := quiet.put 1 (.text "nice")

/-- What is computed for a remark: the number of the row. -/
def evaluations : Batch.Evaluations := { bound := fun row _ _ => .integer (Int32.ofNat row) }

def request : Insert := ⟨schema, [remarked, anonymous, quiet], .upsert, evaluations⟩

/-- The first row is not sent, since the last one has its key. -/
theorem presents_request : ∃ b sent tuples, request.build = .ok b ∧
    Insert.Presents schema .upsert sent b.statement tuples ∧ ∀ row ∈ sent, row.number ≠ 0 := by
  obtain ⟨b, hbuild⟩ : ∃ b, request.build = .ok b := ⟨_, rfl⟩
  obtain ⟨sent, tuples, hpresents, -, hsends⟩ :=
    Insert.presents_of_build (by decide) (by decide) hbuild
  refine ⟨b, sent, tuples, hbuild, hpresents, fun row hrow hnumber => ?_⟩
  obtain ⟨hmem, hlast⟩ := ((hsends rfl).mem_iff row).1 hrow
  -- The last row of the batch has the number 2 and the key of the first one.
  obtain ⟨later, hlater, hnumber', hkey⟩ : ∃ later ∈ request.batch, later.number = 2 ∧
      Batch.keyOf schema later = some [.integer 1] :=
    ⟨_, List.mem_of_getElem? (show request.batch[2]? = some _ from rfl), rfl, rfl⟩
  obtain ⟨i, hi, heq⟩ := Batch.mem_entries.1 hmem
  rw [hnumber] at hi heq
  cases hi
  refine hlast later hlater (by omega) ⟨[.integer 1], [.integer 1], ?_, hkey, by decide⟩
  rw [heq]
  rfl

end Guestbook

end TypedTable
