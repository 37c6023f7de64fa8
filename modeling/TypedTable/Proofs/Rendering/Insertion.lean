import TypedTable.Proofs.Coercion
import TypedTable.Proofs.Rendering.Bindings
import TypedTable.Proofs.Rendering.Name
import TypedTable.Proofs.Schema
import TypedTable.Proofs.Upsert.Batch
import Mathlib.Data.List.TakeWhile
/-!
# Insertions in statements

A cell of an insertion is left to the server, evaluated by it, or sent under a name made of its
column and the number of its row. The statement is written for its template
(`Insert.writes_statement`), and since no two cells share a name (`cells_value_unique`), every cell
has its own value.
-/

namespace TypedTable

open Template

/-! ### What an insertion is meant to say -/

namespace InsertCell

/-- A cell as it is meant. -/
def template : InsertCell → Template
  | absent => ofText "DEFAULT"
  | bound name v => [.value name v]
  | random sql => ofText sql

/-- The value of a cell, with its name, if one is sent. -/
def bindings : InsertCell → List (String × Value)
  | bound name v => [(name, v)]
  | absent | random _ => []

/-- Whether the text of a cell can stand in a statement: its name is a name, and SQL text of its own
stands for itself. -/
def IsPlain : InsertCell → Prop
  | absent => True
  | bound name _ => IsName name
  | random sql => Inert sql

theorem bindings_cellTemplate (c : InsertCell) : c.template.bindings = c.bindings := by
  cases c with
  | absent => exact bindings_ofText _
  | bound name v => rfl
  | random sql => exact bindings_ofText _

theorem addTo_eq_insertAll (before : Params) (c : InsertCell) :
    addTo before c = before.insertAll c.bindings := by
  cases c <;> rfl

theorem renders {c : InsertCell} (h : c.IsPlain) : Renders c.sql c.template := by
  cases c with
  | absent => exact Inert.renders (inert_of_all (by decide))
  | bound name v => exact IsName.renders h v
  | random sql => exact Inert.renders h

end InsertCell

namespace Insert

/-- A row of cells as it is meant. -/
def tupleTemplate (cells : List InsertCell) : Template :=
  ofText "(" ++ separated ", " (cells.map InsertCell.template) ++ ofText ")"

/-- A statement that writes rows, as it is meant. -/
def template (s : Schema) (policy : ConflictPolicy) (rows : List (List InsertCell)) : Template :=
  ofText ("INSERT INTO " ++ s.table.sql ++ " (" ++ s.columnList ++ ") VALUES ") ++
    separated ", " (rows.map tupleTemplate) ++
    ofText (conflict s policy ++ " RETURNING " ++ s.columnList)

theorem bindings_tupleTemplate (cells : List InsertCell) :
    (tupleTemplate cells).bindings = cells.flatMap InsertCell.bindings := by
  simp only [tupleTemplate, bindings_append, bindings_ofText, bindings_separated, List.flatMap_map,
    InsertCell.bindings_cellTemplate, List.nil_append, List.append_nil]

theorem bindings_insertTemplate (s : Schema) (policy : ConflictPolicy)
    (rows : List (List InsertCell)) :
    (template s policy rows).bindings = rows.flatten.flatMap InsertCell.bindings := by
  rw [template, bindings_append, bindings_append, bindings_ofText, bindings_ofText,
    List.nil_append, List.append_nil, bindings_separated, List.flatMap_map,
    List.flatten_eq_flatMap, List.flatMap_assoc]
  simp only [bindings_tupleTemplate, id]

theorem renders_tuple {cells : List InsertCell} (h : ∀ c ∈ cells, c.IsPlain) :
    Renders (tuple cells) (tupleTemplate cells) := by
  have hopen : Inert "(" := inert_of_all (by decide)
  have hclose : Inert ")" := inert_of_all (by decide)
  have hcomma : Inert ", " := inert_of_all (by decide)
  have hcells : List.Forall₂ Renders (cells.map InsertCell.sql)
      (cells.map InsertCell.template) :=
    forall₂_renders fun c hc => InsertCell.renders (h c hc)
  have hseparated := renders_separated hcomma (by simp) (endsName_cons.2 rfl) hcells
  exact (hopen.append_renders hseparated).append hclose.renders (endsName_cons.2 rfl)

theorem inert_names (columns : List Column) : Inert (Text.commas (columns.map (·.ident.sql))) := by
  refine inert_commas fun text htext => ?_
  obtain ⟨c, -, rfl⟩ := List.mem_map.1 htext
  exact inert_ident c.ident

theorem inert_columnList (s : Schema) : Inert s.columnList := inert_names s.columns

theorem inert_keyList (s : Schema) : Inert s.keyList := inert_names s.primaryKey

theorem inert_conflict (s : Schema) (policy : ConflictPolicy) : Inert (conflict s policy) := by
  have hconflict : Inert " ON CONFLICT (" := inert_of_all (by decide)
  cases policy with
  | doNothing =>
    have hnothing : Inert ") DO NOTHING" := inert_of_all (by decide)
    unfold conflict
    dsimp only
    split
    · exact (hconflict.append (inert_keyList s)).append hnothing
    · exact inert_of_all (by decide)
  | upsert =>
    have hupdate : Inert ") DO UPDATE SET " := inert_of_all (by decide)
    have hexcluded : Inert " = EXCLUDED." := inert_of_all (by decide)
    refine ((hconflict.append (inert_keyList s)).append hupdate).append (inert_commas ?_)
    intro text htext
    obtain ⟨c, -, rfl⟩ := List.mem_map.1 htext
    exact ((inert_ident c.ident).append hexcluded).append (inert_ident c.ident)

theorem endsName_conflict (s : Schema) (policy : ConflictPolicy) :
    EndsName (conflict s policy).toList := by
  unfold conflict
  cases policy with
  | doNothing =>
    dsimp only
    split
    · simp only [String.append_assoc, String.toList_append]
      exact endsName_cons.2 rfl
    · exact endsName_cons.2 rfl
  | upsert =>
    dsimp only
    simp only [String.append_assoc, String.toList_append]
    exact endsName_cons.2 rfl

theorem writes_insertStatement {s : Schema} {rows : List (List InsertCell)}
    (h : ∀ c ∈ rows.flatten, c.IsPlain) (policy : ConflictPolicy) :
    (statement s policy rows).Writes (template s policy rows) := by
  have hinsert : Inert "INSERT INTO " := inert_of_all (by decide)
  have hopen : Inert " (" := inert_of_all (by decide)
  have hvalues : Inert ") VALUES " := inert_of_all (by decide)
  have hcomma : Inert ", " := inert_of_all (by decide)
  have hreturning : Inert " RETURNING " := inert_of_all (by decide)
  -- The rows may bind values; all that stands around them is inert.
  have htuples : List.Forall₂ Renders (rows.map tuple) (rows.map tupleTemplate) :=
    forall₂_renders fun cells hcells => renders_tuple fun c hc =>
      h c (List.mem_flatten.2 ⟨cells, hcells, hc⟩)
  have hrows := renders_separated hcomma (by simp) (endsName_cons.2 rfl) htuples
  have hhead := (((hinsert.append (inert_table s.table)).append hopen).append
    (inert_columnList s)).append hvalues
  constructor
  · have htail := ((inert_conflict s policy).append hreturning).append (inert_columnList s)
    have htailEnds : EndsName (conflict s policy ++ " RETURNING " ++ s.columnList).toList := by
      simp only [String.append_assoc, String.toList_append]
      exact (endsName_conflict s policy).append (endsName_cons.2 rfl)
    have htext := (hhead.append_renders hrows).append htail.renders htailEnds
    rwa [← String.append_assoc, ← String.append_assoc] at htext
  · intro name
    show (rows.flatten.foldl InsertCell.addTo .empty).get? name = _
    rw [bindings_insertTemplate, Params.foldl_eq_insertAll InsertCell.addTo_eq_insertAll,
      Params.get?_insertAll, Params.get?_empty, Option.or_none]

end Insert

/-! ### The cells of the rows -/

/-- What is written to a cell: nothing, text of the server, or a value under the name of the
cell. -/
theorem ofSlot_cases {row : Nat} {c : Column} {e : Evaluation} {slot : Option Value}
    {cell : InsertCell} (h : InsertCell.ofSlot row c e slot = .ok cell) :
    (Batch.written c e slot = none ∧ cell = .absent) ∨
      ∃ v, Batch.written c e slot = some v ∧
        ((∃ sql, v = .random sql ∧ cell = .random sql) ∨
          ∃ w, c.validate v = .ok w ∧ (∀ sql, w ≠ .random sql) ∧
            cell = .bound (InsertCell.boundName c row) w) := by
  unfold InsertCell.ofSlot at h
  split at h
  · next hwritten =>
    cases h
    exact .inl ⟨hwritten, rfl⟩
  · next v hwritten =>
    split at h
    · exact (nomatch h)
    · next sql hvalidate =>
      cases h
      exact .inr ⟨v, hwritten, .inl ⟨sql, Column.validate_eq_random.1 hvalidate, rfl⟩⟩
    · next w hne hvalidate =>
      cases h
      exact .inr ⟨v, hwritten, .inr ⟨w, hvalidate, hne, rfl⟩⟩

/-- Every column has its cell in a row. -/
theorem getElem?_cells {s : Schema} {row : Batch.Entry} {cells : List InsertCell}
    (h : Insert.cells s row = .ok cells) (k : Fin s.columns.length) :
    ∃ cell, cells[(k : Nat)]? = some cell ∧
      InsertCell.ofSlot row.number (s.get k) row.bound (row.row.slot k) = .ok cell := by
  obtain ⟨hlength, hcells⟩ := List.forall₂_iff_get.1 (mapM_eq_ok_iff.1 h)
  have hk : (k : Nat) < (List.finRange s.columns.length).length := by simp
  have hk' : (k : Nat) < cells.length := hlength ▸ hk
  refine ⟨cells[(k : Nat)], List.getElem?_eq_getElem hk', ?_⟩
  have hcell := hcells k hk hk'
  simpa using hcell

theorem length_of_cells {s : Schema} {row : Batch.Entry} {cells : List InsertCell}
    (h : Insert.cells s row = .ok cells) : cells.length = s.columns.length := by
  rw [← (mapM_eq_ok_iff.1 h).length_eq, List.length_finRange]

/-- Every row that is sent has a cell for every column. -/
theorem length_of_mem_cells {s : Schema} {sent : List Batch.Entry}
    {cells : List (List InsertCell)} (h : sent.mapM (Insert.cells s) = .ok cells) :
    ∀ row ∈ cells, row.length = s.columns.length := by
  intro row hrow
  obtain ⟨_, _, hcells⟩ := exists_of_mem_right (mapM_eq_ok_iff.1 h) hrow
  exact length_of_cells hcells

/-- Cells of a batch with one name are one cell: a name says the column and the number of the
row. -/
theorem Insert.boundName_injective {s : Schema} {batch : List Batch.Entry}
    (hnumbered : Batch.Numbered batch) {row row' : Batch.Entry} (hrow : row ∈ batch)
    (hrow' : row' ∈ batch) {k k' : Fin s.columns.length}
    (h : InsertCell.boundName (s.get k) row.number =
      InsertCell.boundName (s.get k') row'.number) : row = row' ∧ k = k' := by
  have htable : (s.get k).table = (s.get k').table := by rw [s.table_get, s.table_get]
  obtain ⟨hident, hnumber⟩ := cell_eq_of_boundName_eq htable h
  exact ⟨hnumbered.eq_of_number_eq hrow hrow' hnumber, Schema.eq_of_ident_eq hident⟩

section Cells

variable {s : Schema} {policy : ConflictPolicy} {batch : List Batch.Entry}
  {cells : List (List InsertCell)}
  (h : (Batch.sent s policy batch).mapM (Insert.cells s) = .ok cells)

include h

/-- The cells of the statement are those of the columns in the rows that are sent. -/
theorem mem_cells_iff {cell : InsertCell} : cell ∈ cells.flatten ↔
    ∃ row ∈ Batch.sent s policy batch, ∃ k : Fin s.columns.length,
      InsertCell.ofSlot row.number (s.get k) row.bound (row.row.slot k) = .ok cell := by
  have hrelated := mapM_eq_ok_iff.1 h
  rw [List.mem_flatten]
  constructor
  · rintro ⟨tuple, htuple, hcell⟩
    obtain ⟨row, hrow, hcells⟩ := exists_of_mem_right hrelated htuple
    obtain ⟨k, -, hk⟩ := exists_of_mem_right (mapM_eq_ok_iff.1 hcells) hcell
    exact ⟨row, hrow, k, hk⟩
  · rintro ⟨row, hrow, k, hk⟩
    obtain ⟨tuple, htuple, hcells⟩ := exists_of_mem_right hrelated.flip hrow
    obtain ⟨cell', hcell', hk'⟩ :=
      exists_of_mem_right (mapM_eq_ok_iff.1 hcells).flip (List.mem_finRange k)
    cases hk.symm.trans hk'
    exact ⟨tuple, htuple, hcell'⟩

/-- Every cell is that of a column in a row of the batch. -/
theorem exists_of_mem_cells {cell : InsertCell} (hcell : cell ∈ cells.flatten) :
    ∃ row ∈ batch, ∃ k : Fin s.columns.length,
      InsertCell.ofSlot row.number (s.get k) row.bound (row.row.slot k) = .ok cell := by
  obtain ⟨row, hsent, hk⟩ := (mem_cells_iff h).1 hcell
  exact ⟨row, (Batch.sent_sublist policy batch).subset hsent, hk⟩

/-- No two cells share a name. -/
theorem cells_value_unique (hnumbered : Batch.Numbered batch) {name : String} {v w : Value}
    (hv : (name, v) ∈ cells.flatten.flatMap InsertCell.bindings)
    (hw : (name, w) ∈ cells.flatten.flatMap InsertCell.bindings) : v = w := by
  have hcell : ∀ {u}, (name, u) ∈ cells.flatten.flatMap InsertCell.bindings →
      ∃ row ∈ batch, ∃ k : Fin s.columns.length,
        InsertCell.ofSlot row.number (s.get k) row.bound (row.row.slot k) = .ok (.bound name u) ∧
        name = InsertCell.boundName (s.get k) row.number := by
    intro u hu
    obtain ⟨cell, hcell, hu⟩ := List.mem_flatMap.1 hu
    obtain ⟨row, hrow, k, hk⟩ := exists_of_mem_cells h hcell
    obtain ⟨-, rfl⟩ | ⟨x, -, ⟨sql, -, rfl⟩ | ⟨y, -, -, rfl⟩⟩ := ofSlot_cases hk
    · exact absurd hu List.not_mem_nil
    · exact absurd hu List.not_mem_nil
    · cases List.mem_singleton.1 hu
      exact ⟨row, hrow, k, hk, rfl⟩
  obtain ⟨row, hrow, k, hk, hname⟩ := hcell hv
  obtain ⟨row', hrow', k', hk', hname'⟩ := hcell hw
  obtain ⟨rfl, rfl⟩ := Insert.boundName_injective hnumbered hrow hrow' (hname.symm.trans hname')
  cases hk.symm.trans hk'
  rfl

/-- The value of every cell is the parameter of its name. -/
theorem Insert.get?_of_mem_cells (hnumbered : Batch.Numbered batch) {row : List InsertCell}
    (hrow : row ∈ cells) {name : String} {v : Value} (hv : .bound name v ∈ row) :
    (Insert.statement s policy cells).params.get? name = some v := by
  have hmem : (name, v) ∈ cells.flatten.flatMap InsertCell.bindings :=
    List.mem_flatMap.2 ⟨_, List.mem_flatten.2 ⟨row, hrow, hv⟩, List.mem_singleton.2 rfl⟩
  show (cells.flatten.foldl InsertCell.addTo .empty).get? name = some v
  rw [Params.foldl_eq_insertAll InsertCell.addTo_eq_insertAll, Params.get?_insertAll,
    Params.get?_empty, Option.or_none]
  refine Params.lookup_of_mem (List.mem_reverse.2 hmem) fun w hw => ?_
  exact cells_value_unique h hnumbered (List.mem_reverse.1 hw) hmem

end Cells

/-- Whether the SQL text of all values that a row is written with stands for itself. -/
def Batch.Entry.IsInert (s : Schema) (row : Batch.Entry) : Prop :=
  ∀ (k : Fin s.columns.length) v,
    Batch.written (s.get k) row.bound (row.row.slot k) = some v → v.IsInert

/-- The cells of rows with plain values are plain. -/
theorem isPlain_of_mem_cells {s : Schema} {policy : ConflictPolicy} {batch : List Batch.Entry}
    {cells : List (List InsertCell)}
    (h : (Batch.sent s policy batch).mapM (Insert.cells s) = .ok cells)
    (hinert : ∀ row ∈ batch, row.IsInert s) : ∀ c ∈ cells.flatten, c.IsPlain := by
  intro cell hcell
  obtain ⟨row, hrow, k, hk⟩ := exists_of_mem_cells h hcell
  obtain ⟨-, rfl⟩ | ⟨v, hv, ⟨sql, rfl, rfl⟩ | ⟨w, -, -, rfl⟩⟩ := ofSlot_cases hk
  · trivial
  · exact hinert row hrow k _ hv sql rfl
  · exact isName_cell (s.get k) row.number

/-- A statement for the cells of plain rows can be sent, and what is sent says what it is meant to
say: every cell has its own value. -/
theorem Insert.exists_read {s : Schema} {policy : ConflictPolicy} {batch : List Batch.Entry}
    {cells : List (List InsertCell)} (hnumbered : Batch.Numbered batch)
    (h : (Batch.sent s policy batch).mapM (Insert.cells s) = .ok cells)
    (hinert : ∀ row ∈ batch, row.IsInert s) :
    ∃ p, (Insert.statement s policy cells).positional = .ok p ∧
      p.read = (Insert.template s policy cells).symbols := by
  have hwrites : (Insert.statement s policy cells).Writes (Insert.template s policy cells) :=
    writes_insertStatement (isPlain_of_mem_cells h hinert) policy
  obtain ⟨p, hp, -, hread⟩ := hwrites.exists_positional
  refine ⟨p, hp, hread.trans (hwrites.lookUp_symbols_eq fun name v w hv hw => ?_)⟩
  rw [Insert.bindings_insertTemplate] at hv hw
  exact cells_value_unique h hnumbered hv hw

/-- SQL text that does not stand for itself may hide values behind it: its apostrophe opens a
quotation for whoever looks for placeholders. -/
example : ∃ p, (Statement.mk "(:a, $$it's$$), (:b, 2)"
    ((Params.empty.insert "a" (.integer 1)).insert "b" (.integer 2))).positional = .ok p ∧
    p.sql = "($1, $$it's$$), (:b, 2)" ∧ p.values = [.integer 1] :=
  ⟨_, rfl, by decide, rfl⟩

/-! ### Built insertions -/

/-- A text that begins with something visible is not blank. -/
theorem trim_ne_nil {c : Char} (h : Text.isBlank c = false) (cs : List Char) :
    Text.trim (c :: cs) ≠ [] := by
  intro hnil
  rw [Text.trim, Text.dropBlanks_cons_of_not_blank cs h, List.reverse_eq_nil_iff, Text.dropBlanks,
    List.dropWhile_eq_nil_iff] at hnil
  have hblank := hnil c (List.mem_reverse.2 List.mem_cons_self)
  rw [h] at hblank
  exact absurd hblank (by decide)

/-- A statement whose text begins with something visible is sent. -/
theorem Statement.isEmpty_eq_false {s : Statement} {c : Char} {cs : List Char}
    (h : s.sql.toList = c :: cs) (hc : Text.isBlank c = false) : s.isEmpty = false := by
  unfold Statement.isEmpty
  rw [h, List.isEmpty_eq_false_iff]
  exact trim_ne_nil hc cs

/-- A statement that writes rows is sent. -/
theorem isEmpty_insertStatement (s : Schema) (policy : ConflictPolicy)
    (rows : List (List InsertCell)) : (Insert.statement s policy rows).isEmpty = false := by
  have htext : ∃ rest, (Insert.statement s policy rows).sql.toList = 'I' :: rest := by
    have hinsert : "INSERT INTO ".toList = 'I' :: "NSERT INTO ".toList := by simp
    unfold Insert.statement
    simp only [String.append_assoc, String.toList_append]
    rw [hinsert, List.cons_append]
    exact ⟨_, rfl⟩
  obtain ⟨rest, hrest⟩ := htext
  exact Statement.isEmpty_eq_false hrest (by decide)

theorem Insert.checkRows_eq_ok_iff {q : Insert} :
    q.checkRows = .ok () ↔ ∀ i ∈ q.rows, i.isOf q.schema = true := by
  unfold Insert.checkRows
  cases hfind : q.rows.find? (!·.isOf q.schema) with
  | none =>
    refine ⟨fun _ i hi => ?_, fun _ => rfl⟩
    simpa using List.find?_eq_none.1 hfind i hi
  | some stranger =>
    refine ⟨fun h => (nomatch h), fun h => ?_⟩
    have hstranger := List.find?_some hfind
    rw [h stranger (List.mem_of_find?_eq_some hfind)] at hstranger
    exact (nomatch hstranger)

theorem Insert.checkPolicy_eq_ok_iff {q : Insert} :
    q.checkPolicy = .ok () ↔ (q.policy = .upsert → q.schema.hasPrimaryKey = true) := by
  unfold Insert.checkPolicy
  split
  · next h => exact ⟨fun h' => (nomatch h'), fun h' => by simp [h' h.1] at h⟩
  · next h => exact ⟨fun _ => by simpa using h, fun _ => rfl⟩

/-- A request is built if its rows fit, they can be told apart where they have to be, and the
statement can be written. -/
theorem Insert.build_eq_ok_iff {q : Insert} {b : InsertQuery} :
    q.build = .ok b ↔ (∀ i ∈ q.rows, i.isOf q.schema = true) ∧
      (q.policy = .upsert → q.schema.hasPrimaryKey = true) ∧
      ∃ statement, q.render = .ok statement ∧
        b = ⟨⟨statement, [q.schema.table]⟩, q.schema, q.rows, q.policy⟩ := by
  rw [← checkRows_eq_ok_iff, ← checkPolicy_eq_ok_iff]
  constructor
  · intro h
    obtain ⟨⟨⟩, hrows, h⟩ := bind_eq_ok.1 h
    obtain ⟨⟨⟩, hpolicy, h⟩ := bind_eq_ok.1 h
    obtain ⟨statement, hrender, h⟩ := bind_eq_ok.1 h
    cases h
    exact ⟨hrows, hpolicy, statement, hrender, rfl⟩
  · rintro ⟨hrows, hpolicy, statement, hrender, rfl⟩
    exact bind_eq_ok.2 ⟨(), hrows, bind_eq_ok.2 ⟨(), hpolicy,
      bind_eq_ok.2 ⟨statement, hrender, rfl⟩⟩⟩

/-- A query that is built has the statement of the request and keeps all else of it. -/
theorem Insert.build_eq_ok {q : Insert} {b : InsertQuery} (h : q.build = .ok b) :
    q.checkRows = .ok () ∧ q.render = .ok b.statement ∧ b.schema = q.schema ∧ b.rows = q.rows ∧
      b.policy = q.policy := by
  obtain ⟨hrows, -, statement, hrender, rfl⟩ := build_eq_ok_iff.1 h
  exact ⟨checkRows_eq_ok_iff.2 hrows, hrender, rfl, rfl, rfl⟩

/-- A statement is written unless there is nothing to write. -/
theorem Insert.render_eq_ok {q : Insert} {statement : Statement} (h : q.render = .ok statement) :
    ((q.rows = [] ∨ q.schema.columns = []) ∧ statement = .empty) ∨
      ∃ cells, (Batch.sent q.schema q.policy q.batch).mapM (Insert.cells q.schema) = .ok cells ∧
        statement = Insert.statement q.schema q.policy cells := by
  unfold Insert.render at h
  split at h
  · next hempty =>
    cases h
    rw [Bool.or_eq_true, List.isEmpty_iff, List.isEmpty_iff] at hempty
    exact .inl ⟨hempty, rfl⟩
  · obtain ⟨cells, hcells, rfl⟩ := map_eq_ok.1 h
    exact .inr ⟨cells, hcells, rfl⟩

theorem Insert.render_of_cells {q : Insert} {cells : List (List InsertCell)} (hrows : q.rows ≠ [])
    (hcolumns : q.schema.columns ≠ [])
    (hcells : (Batch.sent q.schema q.policy q.batch).mapM (Insert.cells q.schema) = .ok cells) :
    q.render = .ok (Insert.statement q.schema q.policy cells) := by
  unfold Insert.render
  rw [if_neg (by simp [hrows, hcolumns])]
  exact map_eq_ok.2 ⟨cells, hcells, rfl⟩

end TypedTable
