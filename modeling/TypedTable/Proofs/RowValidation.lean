import TypedTable.Proofs.Rendering.Insertion
/-!
# Which rows of an insertion are validated

`Batch.Entry.violation?` is what is wrong with the first column of a row that does not take what is
written to it, and `Batch.violation?` the same of the first row of a batch with such a column. What
is written is the value of a slot, or else what the column's default gives for the row where the
statement is written.

Building a request whose rows fit and can be told apart reports this of the rows that are sent
(`Insert.build_eq_error_iff`). A row that is left out, since a later one has its key, is not looked
at: `Insert.validatesEveryRow_iff` says when this makes a difference.
-/

namespace TypedTable

/-! ### What is wrong with rows -/

/-- Why a column does not take what is written to it, if it does not. -/
def Column.violation? (c : Column) (e : Evaluation) (slot : Option Value) : Option Violation :=
  match Batch.written c e slot with
  | none => none
  | some v =>
    match c.validate v with
    | .error violation => some violation
    | .ok _ => none

namespace Batch

/-- What is wrong with the first column of a row that does not take what is written to it. -/
def Entry.violation? (s : Schema) (row : Entry) : Option Violation :=
  (List.finRange s.columns.length).findSome? fun k =>
    (s.get k).violation? row.bound (row.row.slot k)

/-- What is wrong with the first row of a batch with a column that does not take what is written. -/
def violation? (s : Schema) (batch : List Entry) : Option Violation :=
  batch.findSome? (·.violation? s)

end Batch

theorem Column.violation?_eq_none_iff {c : Column} {e : Evaluation} {slot : Option Value} :
    c.violation? e slot = none ↔
      ∀ v, Batch.written c e slot = some v → ∃ w, c.validate v = .ok w := by
  unfold violation?
  cases Batch.written c e slot with
  | none => exact iff_of_true rfl fun _ h => (nomatch h)
  | some v =>
    show (match c.validate v with | .error violation => some violation | .ok _ => none) = none ↔ _
    cases hvalidate : c.validate v with
    | error violation =>
      refine iff_of_false (fun h => (nomatch h)) fun h => ?_
      obtain ⟨w, hw⟩ := h v rfl
      exact (nomatch hvalidate.symm.trans hw)
    | ok w =>
      refine iff_of_true rfl fun u hu => ?_
      cases hu
      exact ⟨w, hvalidate⟩

/-- Nothing is wrong with a row if every column takes what is written to it. -/
theorem Batch.Entry.violation?_eq_none_iff {s : Schema} {row : Batch.Entry} :
    row.violation? s = none ↔ ∀ (k : Fin s.columns.length) v,
      Batch.written (s.get k) row.bound (row.row.slot k) = some v →
        ∃ w, (s.get k).validate v = .ok w := by
  unfold violation?
  rw [List.findSome?_eq_none_iff]
  simp only [Column.violation?_eq_none_iff]
  exact ⟨fun h k => h k (List.mem_finRange k), fun h k _ => h k⟩

/-! ### What building a request reports -/

theorem InsertCell.ofSlot_eq_error_iff {row : Nat} {c : Column} {e : Evaluation}
    {slot : Option Value} {error : Error} :
    ofSlot row c e slot = .error error ↔
      (c.violation? e slot).map Error.violation = some error := by
  unfold ofSlot Column.violation?
  cases Batch.written c e slot with
  | none => exact iff_of_false (fun h => (nomatch h)) fun h => (nomatch h)
  | some v =>
    dsimp only
    cases c.validate v with
    | error violation => simp
    | ok w => cases w <;> simp

namespace Insert

variable {q : Insert}

theorem cells_eq_error_iff {s : Schema} {row : Batch.Entry} {e : Error} :
    cells s row = .error e ↔ (row.violation? s).map Error.violation = some e := by
  unfold cells Batch.Entry.violation?
  rw [List.map_findSome?]
  exact mapM_eq_error_iff_findSome? fun k e => InsertCell.ofSlot_eq_error_iff

/-- The rows that are sent. -/
def sentRows (q : Insert) : List Batch.Entry := Batch.sent q.schema q.policy q.batch

theorem mem_of_mem_sentRows {row : Batch.Entry} (h : row ∈ q.sentRows) : row ∈ q.batch :=
  (Batch.sent_sublist q.policy q.batch).subset h

/-- What writing the statement reports is what is wrong with the rows that are sent. -/
theorem render_eq_error_iff (hcolumns : q.schema.columns ≠ []) {e : Error} :
    q.render = .error e ↔ (Batch.violation? q.schema q.sentRows).map Error.violation = some e := by
  unfold render
  by_cases hrows : q.rows = []
  · rw [if_pos (by simp [hrows])]
    have hsent : q.sentRows = [] := List.eq_nil_iff_forall_not_mem.2 fun row hrow => by
      have hmem := mem_of_mem_sentRows hrow
      rw [batch, hrows] at hmem
      exact absurd hmem List.not_mem_nil
    rw [hsent]
    exact iff_of_false (fun h => (nomatch h)) fun h => (nomatch h)
  · rw [if_neg (by simp [hrows, hcolumns]), map_eq_error]
    unfold Batch.violation? sentRows
    rw [List.map_findSome?]
    exact mapM_eq_error_iff_findSome? fun row e => cells_eq_error_iff

/-- Building a request whose rows fit and can be told apart reports what is wrong with the rows that
are sent. -/
theorem build_eq_error_iff (hcolumns : q.schema.columns ≠ [])
    (hrows : ∀ i ∈ q.rows, i.isOf q.schema = true)
    (hkey : q.policy = .upsert → q.schema.hasPrimaryKey = true) {e : Error} :
    q.build = .error e ↔ (Batch.violation? q.schema q.sentRows).map Error.violation = some e := by
  rw [← render_eq_error_iff hcolumns]
  unfold build
  rw [checkRows_eq_ok_iff.2 hrows, checkPolicy_eq_ok_iff.2 hkey]
  exact map_eq_error (f := fun statement => InsertQuery.mk ⟨statement, [q.schema.table]⟩ q.schema
    q.rows q.policy)

/-- Nothing is wrong with the rows that a request sends that is built. -/
theorem violation?_sentRows_of_build {b : InsertQuery} (hcolumns : q.schema.columns ≠ [])
    (hbuild : q.build = .ok b) : Batch.violation? q.schema q.sentRows = none := by
  obtain ⟨hrows, hkey, -⟩ := build_eq_ok_iff.1 hbuild
  refine Option.eq_none_iff_forall_ne_some.2 fun violation h => ?_
  have herror := (build_eq_error_iff hcolumns hrows hkey).2 (congrArg (Option.map _) h)
  exact (nomatch hbuild.symm.trans herror)

/-! ### When every row is validated -/

/-- Whether building a request validates every row. -/
structure ValidatesEveryRow (q : Insert) : Prop where
  /-- A request that is built has only rows of its declaration. -/
  isOf : ∀ b, q.build = .ok b → ∀ i ∈ q.rows, i.isOf q.schema = true
  /-- In a request that is built, every column takes what is written to it, in every row. -/
  takes : ∀ b, q.build = .ok b → ∀ row ∈ q.batch, ∀ (k : Fin q.schema.columns.length) v,
    Batch.written (q.schema.get k) row.bound (row.row.slot k) = some v →
      ∃ w, (q.schema.get k).validate v = .ok w
  /-- If the rows belong to the declaration and can be told apart where they have to be, the first
  value that a column does not take is reported, row by row and from left to right. -/
  reports : (∀ i ∈ q.rows, i.isOf q.schema = true) →
    (q.policy = .upsert → q.schema.hasPrimaryKey = true) →
    ∀ violation, Batch.violation? q.schema q.batch = some violation →
      q.build = .error (.violation violation)

/-- If the first violation of the rows that are sent is that of all rows, every row is validated. -/
theorem validatesEveryRow_of_eq (hcolumns : q.schema.columns ≠ [])
    (h : (∀ i ∈ q.rows, i.isOf q.schema = true) →
      (q.policy = .upsert → q.schema.hasPrimaryKey = true) →
      Batch.violation? q.schema q.sentRows = Batch.violation? q.schema q.batch) :
    q.ValidatesEveryRow where
  isOf := fun b hbuild => (build_eq_ok_iff.1 hbuild).1
  takes := by
    intro b hbuild row hrow
    obtain ⟨hrows, hkey, -⟩ := build_eq_ok_iff.1 hbuild
    have hnone : Batch.violation? q.schema q.batch = none :=
      (h hrows hkey).symm.trans (violation?_sentRows_of_build hcolumns hbuild)
    exact Batch.Entry.violation?_eq_none_iff.1 (List.findSome?_eq_none_iff.1 hnone row hrow)
  reports := by
    intro hrows hkey violation hviolation
    refine (build_eq_error_iff hcolumns hrows hkey).2 ?_
    rw [h hrows hkey, hviolation]
    rfl

/-- Every row is validated exactly if what is wrong with the first row of the batch is also wrong
with the first row that is sent. This is so for all batches whose rows do not replace each other. A
row that passes although a column does not take what is written to it is one of an upsert, and a
later row is known to have its key. -/
theorem validatesEveryRow_iff (q : Insert) (hcolumns : q.schema.columns ≠ []) :
    (q.ValidatesEveryRow ↔ ((∀ i ∈ q.rows, i.isOf q.schema = true) →
      (q.policy = .upsert → q.schema.hasPrimaryKey = true) →
      Batch.violation? q.schema q.sentRows = Batch.violation? q.schema q.batch)) ∧
    (q.policy = .doNothing → q.ValidatesEveryRow) ∧
    ∀ b, q.build = .ok b → ∀ row ∈ q.batch, row.violation? q.schema ≠ none →
      q.policy = .upsert ∧ ∃ later ∈ q.batch, row.number < later.number ∧
        Batch.SharesKey q.schema row later := by
  refine ⟨⟨fun h hrows hkey => ?_, validatesEveryRow_of_eq hcolumns⟩, fun hpolicy => ?_,
    fun b hbuild row hrow hviolation => ?_⟩
  · cases hall : Batch.violation? q.schema q.batch with
    | none =>
      have hnone := List.findSome?_eq_none_iff.1 hall
      exact List.findSome?_eq_none_iff.2 fun row hrow => hnone row (mem_of_mem_sentRows hrow)
    | some violation =>
      have herror := (build_eq_error_iff hcolumns hrows hkey).1 (h.reports hrows hkey violation hall)
      obtain ⟨violation', hsent, heq⟩ := Option.map_eq_some_iff.1 herror
      rw [hsent, Error.violation.inj heq]
  · refine validatesEveryRow_of_eq hcolumns fun _ _ => ?_
    rw [sentRows, hpolicy, Batch.sent_doNothing]
  · have hunsent : row ∉ Batch.sent q.schema q.policy q.batch := by
      intro hmem
      have hnone := violation?_sentRows_of_build hcolumns hbuild
      exact hviolation (List.findSome?_eq_none_iff.1 hnone row hmem)
    cases hpolicy : q.policy with
    | doNothing =>
      rw [hpolicy, Batch.sent_doNothing] at hunsent
      exact absurd hrow hunsent
    | upsert =>
      refine ⟨rfl, ?_⟩
      rw [hpolicy] at hunsent
      by_contra hnone
      refine hunsent (((Batch.sends_sent (Batch.numbered_entries _ _)).mem_iff row).2 ⟨hrow, ?_⟩)
      intro later hlater hlt hshares
      exact hnone ⟨later, hlater, hlt, hshares⟩

end Insert

/-! ### A row that is left out -/

namespace Unread

/-- The table of the columns. -/
def table : TableName := ⟨⟨"depot", by decide, by decide⟩, ⟨"parcels", by decide, by decide⟩⟩

def key : Column where
  name := ⟨table, ⟨"parcel", by decide, by decide⟩⟩
  type := .integer
  primaryKey := true
  unique := true
  notNull := true
  default := none
  foreignKey := none

def address : Column where
  name := ⟨table, ⟨"address", by decide, by decide⟩⟩
  type := .text
  primaryKey := false
  unique := false
  notNull := true
  default := none
  foreignKey := none

def schema : Schema where
  table := table
  columns := [key, address]
  table_eq := by decide
  nodup := by decide

/-- A row with the key 1. -/
def row (address : Value) : Instance := ((Instance.new schema).put 0 (.integer 1)).put 1 address

/-- The first of two rows with one key has a null in a column that takes none. -/
def request : Insert := ⟨schema, [row .null, row (.text "pier")], .upsert, {}⟩

/-- The request is built, though its first row is not in order. -/
theorem not_validatesEveryRow_request :
    (∃ b, request.build = .ok b) ∧ ¬request.ValidatesEveryRow := by
  refine ⟨⟨_, rfl⟩, fun h => ?_⟩
  have heq := (Insert.validatesEveryRow_iff request (by decide)).1.1 h (by decide) (by decide)
  exact absurd heq (by decide)

end Unread

end TypedTable
