import TypedTable.Proofs.BackFill.Execution
/-!
# Rows that the server draws

`Schema.random` writes a batch of rows whose values the server is to draw, and gives the batch after
the rows that came back were taken over. A row of it exists if it holds a record that came back, so
that nothing in it is left to the server any more (`Schema.RowsExist`).

A row of the batch has nothing in the slots of its key, or SQL text, so no record has its key
(`matchesKey_eq_false`). Records are therefore taken over by their order or not at all, and
`Schema.rowsExist_iff_of_random` says that the rows exist exactly if none of them was skipped.
-/

namespace TypedTable

open BackFill

/-- Whether rows are those of records that came back, each used at most once and in order, and hold
no values that the server is still to evaluate. -/
structure Schema.RowsExist (s : Schema) (records : List Record) (rows : List Instance) : Prop where
  hydrated : ∃ used : List Record, used.Sublist records ∧
    used.mapM (Instance.ofRecord s (List.finRange s.columns.length)) = .ok rows
  evaluated : ∀ i ∈ rows, ∀ (k : Nat) (v : Value), i.slot k = some v → v.random? = none

/-- Whether a record holds what a table can hold. -/
def Record.IsData (r : Record) : Prop := ∀ v ∈ r, v.random? = none

/-- Whether a row is left to the server: every slot is unset or holds SQL text. -/
structure Instance.IsDrawn (s : Schema) (i : Instance) : Prop where
  schema_eq : i.schema = s
  slot : ∀ (k : Nat) (v : Value), i.slot k = some v → ∃ sql, v = .random sql

variable {s : Schema}

/-! ### The rows of the batch -/

theorem isDrawn_new (s : Schema) : (Instance.new s).IsDrawn s := by
  refine ⟨rfl, fun k v hv => ?_⟩
  rw [Instance.slot_new] at hv
  exact (nomatch hv)

/-- SQL text is taken by every column as it is. -/
theorem Instance.IsDrawn.set {i j : Instance} {column sql : String} (hi : i.IsDrawn s)
    (h : i.set column (.random sql) = .ok j) : j.IsDrawn s := by
  refine ⟨(schema_of_set h).trans hi.schema_eq, ?_⟩
  obtain ⟨l, -, h⟩ := bind_eq_ok.1 h
  obtain ⟨w, hw, h⟩ := bind_eq_ok.1 h
  cases h
  obtain rfl : Value.random sql = w := Except.ok.inj hw
  intro k v hv
  rw [slot_put i k _ l.isLt] at hv
  split at hv
  · exact ⟨sql, (Option.some.inj hv).symm⟩
  · exact hi.slot k v hv

theorem isDrawn_randomRow {i : Instance} (h : s.randomRow = .ok i) : i.IsDrawn s := by
  refine of_foldlM_eq_ok (P := Instance.IsDrawn s) (fun i c j hi hstep => ?_) (isDrawn_new s) h
  split at hstep
  · cases hstep
    exact hi
  · obtain ⟨g, -, hset⟩ := bind_eq_ok.1 hstep
    exact hi.set hset

theorem isDrawn_of_mem_batch {count : Nat} {batch : List Instance}
    (h : (List.replicate count ()).mapM (fun _ => s.randomRow) = .ok batch) :
    ∀ i ∈ batch, i.IsDrawn s := by
  intro i hi
  obtain ⟨-, -, hrow⟩ := exists_of_mem_right (mapM_eq_ok_iff.1 h) hi
  exact isDrawn_randomRow hrow

/-! ### The rows that come back -/

section

variable {r : Record} {h : Instance}
  (hrecord : Instance.ofRecord s (List.finRange s.columns.length) r = .ok h)

include hrecord

/-- A column makes SQL text of SQL text only. -/
theorem isData_iff_of_ofRecord :
    r.IsData ↔ ∀ (k : Nat) (v : Value), h.slot k = some v → v.random? = none := by
  have hcolumn : ∀ {c : Column} {v w : Value}, c.convert v = .ok w →
      (v.random? = none ↔ w.random? = none) := by
    intro c v w hconvert
    have hrandom : ∀ sql, v = .random sql ↔ w = .random sql := by
      intro sql
      constructor
      · rintro rfl
        exact (Except.ok.inj hconvert).symm
      · rintro rfl
        exact SqlType.coerce_eq_random.1 (Column.convert_eq_ok.1 hconvert)
    cases v <;> cases w <;> simp_all [Value.random?]
  obtain ⟨hlength, hschema, -⟩ := Instance.ofRecord_cases hrecord
  rw [List.length_finRange] at hlength
  constructor
  · intro hdata k v hv
    have hk : k < s.columns.length := by
      by_contra hk
      have hnone : h.slots[k]? = none := by
        rw [List.getElem?_eq_none_iff, h.length_slots, hschema]
        exact Nat.le_of_not_lt hk
      rw [Instance.slot, hnone] at hv
      exact absurd hv.symm (Option.some_ne_none v)
    obtain ⟨u, w, hu, hconvert, hslot⟩ := Instance.slot_ofRecord hrecord ⟨k, hk⟩
    cases hslot.symm.trans hv
    exact (hcolumn hconvert).1 (hdata u (List.mem_of_getElem? hu))
  · intro hslots v hv
    obtain ⟨k, hk⟩ := List.getElem?_of_mem hv
    have hlt : k < s.columns.length := hlength ▸ (List.getElem?_eq_some_iff.1 hk).1
    obtain ⟨u, w, hu, hconvert, hslot⟩ := Instance.slot_ofRecord hrecord ⟨k, hlt⟩
    cases hu.symm.trans hk
    exact (hcolumn hconvert).2 (hslots k w hslot)

/-- A row that is filled from a record is the row of the record. -/
theorem fill_ofRecord {i : Instance} (hi : i.schema = s) : i.fill h = h := by
  obtain ⟨-, hschema, -⟩ := Instance.ofRecord_cases hrecord
  have hslots : (i.fill h).slots = h.slots := by
    have hlength : (i.fill h).slots.length = s.columns.length := by
      rw [(i.fill h).length_slots, Instance.schema_fill, hi]
    refine Instance.slots_eq (by rw [hlength, h.length_slots, hschema]) fun k hk => ?_
    rw [hlength] at hk
    obtain ⟨-, w, -, -, hw⟩ := Instance.slot_ofRecord hrecord ⟨k, hk⟩
    have hw : h.slot k = some w := hw
    rw [Instance.slot_fill i h (by rw [hi]; exact hk), hw]
    rfl
  exact Instance.eq_of_slots (by rw [Instance.schema_fill, hi, hschema]) hslots

/-- A record does not have the key of a row that is left to the server. -/
theorem matchesKey_eq_false {i : Instance} (hi : i.IsDrawn s) (hdata : r.IsData)
    (hkey : s.keyPositions ≠ []) : matchesKey s h i = false := by
  obtain ⟨k, hk⟩ := List.exists_mem_of_ne_nil _ hkey
  refine List.all_eq_false.2 ⟨k, hk, ?_⟩
  obtain ⟨-, w, -, -, hw⟩ := Instance.slot_ofRecord hrecord k
  rw [hw]
  cases hslot : i.slot k with
  | none => simp
  | some v =>
    obtain ⟨sql, rfl⟩ := hi.slot k v hslot
    have hwdata : w.random? = none := (isData_iff_of_ofRecord hrecord).1 hdata k w hw
    cases w <;> simp_all [Value.same, Value.random?]

end

section

variable {batch returned : List Instance} {records : List Record}
  (hbatch : ∀ i ∈ batch, i.IsDrawn s)
  (hreturned : records.mapM (Instance.ofRecord s (List.finRange s.columns.length)) = .ok returned)

include hbatch hreturned

/-- If none was skipped, the rows of the batch become those that came back. -/
theorem rows_of_length_eq {policy : ConflictPolicy} (hlength : returned.length = batch.length) :
    BackFill.rows s policy batch returned = returned := by
  rw [BackFill.rows, if_pos hlength]
  have hfill : ∀ i ∈ batch, ∀ h ∈ returned, i.fill h = h := by
    intro i hi h hh
    obtain ⟨r, -, hr⟩ := exists_of_mem_right (mapM_eq_ok_iff.1 hreturned) hh
    exact fill_ofRecord hr (hbatch i hi).schema_eq
  clear hbatch hreturned
  induction batch generalizing returned with
  | nil => rw [List.length_eq_zero_iff.1 hlength, List.zipWith_nil_left]
  | cons i batch ih =>
    obtain _ | ⟨h, returned⟩ := returned
    · exact absurd hlength.symm (Nat.succ_ne_zero _)
    · rw [List.zipWith_cons_cons, hfill i List.mem_cons_self h List.mem_cons_self,
        ih (Nat.succ.inj hlength) fun i' hi' h' hh' =>
          hfill i' (List.mem_cons_of_mem i hi') h' (List.mem_cons_of_mem h hh')]

/-- If some were skipped, the batch stays as it is. -/
theorem rows_of_length_ne (hdata : ∀ r ∈ records, Record.IsData r)
    (hlength : returned.length ≠ batch.length) :
    BackFill.rows s .doNothing batch returned = batch := by
  rw [BackFill.rows, if_neg hlength]
  split
  · rfl
  · next hkey =>
    have hmatch : ∀ h ∈ returned, ∀ i ∈ batch, matchesKey s h i = false := by
      intro h hh i hi
      obtain ⟨r, hr, hrecord⟩ := exists_of_mem_right (mapM_eq_ok_iff.1 hreturned) hh
      exact matchesKey_eq_false hrecord (hbatch i hi) (hdata r hr)
        fun hnil => hkey (List.isEmpty_iff.2 hnil)
    have hfill : ∀ h ∈ returned, fillFirst s h batch = batch := by
      intro h hh
      refine List.ext_getElem? fun j => (getElem?_fillFirst h batch j).2 ?_
      rintro ⟨⟨i, hi, hfilled⟩, -⟩
      rw [hmatch h hh i (List.mem_of_getElem? hi)] at hfilled
      exact absurd hfilled (by decide)
    clear hreturned hmatch hlength
    induction returned with
    | nil => rfl
    | cons h returned ih =>
      obtain ⟨hfirst, hrest⟩ := List.forall_mem_cons.1 hfill
      rw [List.foldl_cons]
      show List.foldl (fillByKey s .doNothing) (fillFirst s h batch) returned = batch
      rw [hfirst]
      exact ih hrest

end

/-! ### Drawing rows -/

/-- If the batch can be written, drawing rows runs its insertion. -/
theorem random_of_build {σ : Type} {count : Nat} {batch : List Instance} {e : Batch.Evaluations}
    {q : InsertQuery} (hbatch : (List.replicate count ()).mapM (fun _ => s.randomRow) = .ok batch)
    (hbuild : Insert.build { schema := s, rows := batch, evaluations := e } = .ok q)
    (client : Client σ) (state : σ) : s.random count e client state =
      ((q.execute client state).1.map (·.2.rows), (q.execute client state).2) := by
  unfold Schema.random
  dsimp only
  rw [bind_eq_ok.2 ⟨batch, hbatch, hbuild⟩]

/-- What drawing rows that succeeds went through. -/
theorem random_eq_ok {σ : Type} {count : Nat} {e : Batch.Evaluations} {client : Client σ}
    {state state' : σ} {rows : List Instance}
    (h : s.random count e client state = (.ok rows, state')) :
    ∃ batch q records returned,
      (List.replicate count ()).mapM (fun _ => s.randomRow) = .ok batch ∧
      Insert.build { schema := s, rows := batch, evaluations := e } = .ok q ∧
      q.records client state = (.ok records, state') ∧
      records.mapM (Instance.ofRecord s (List.finRange s.columns.length)) = .ok returned ∧
      rows = BackFill.rows s .doNothing batch returned := by
  unfold Schema.random at h
  dsimp only at h
  split at h
  · exact (nomatch h)
  · next q hbuilt =>
    obtain ⟨batch, hbatch, hbuild⟩ := bind_eq_ok.1 hbuilt
    obtain ⟨hresult, hstate⟩ := Prod.mk.inj h
    obtain ⟨⟨n, after⟩, hexecute, rfl⟩ := map_eq_ok.1 hresult
    obtain ⟨-, -, hschema, hrows, hpolicy⟩ := Insert.build_eq_ok hbuild
    obtain ⟨records, returned, hrecords, -, hreturned, hafter⟩ :=
      execute_eq_ok (Prod.ext hexecute hstate)
    rw [hschema] at hreturned
    rw [hschema, hrows, hpolicy] at hafter
    exact ⟨batch, q, records, returned, hbatch, hbuild, hrecords, hreturned, hafter⟩

/-- The rows that are given exist exactly if as many records of data came back as rows were asked
for. If fewer came back, nothing is taken over: all rows are given as they were sent, those that
were written and those that were skipped, with the SQL text that their values were to be drawn
by. -/
theorem Schema.rowsExist_iff_of_random {σ : Type} {count : Nat} {e : Batch.Evaluations}
    {client : Client σ} {state state' : σ} {rows : List Instance}
    (h : s.random count e client state = (.ok rows, state')) :
    ∃ batch q records,
      (List.replicate count ()).mapM (fun _ => s.randomRow) = .ok batch ∧
      Insert.build { schema := s, rows := batch, evaluations := e } = .ok q ∧
      q.records client state = (.ok records, state') ∧
      (records.length ≤ count → (s.RowsExist records rows ↔
        records.length = count ∧ ∀ r ∈ records, Record.IsData r)) ∧
      (records.length < count → (∀ r ∈ records, Record.IsData r) → rows = batch) := by
  obtain ⟨batch, q, records, returned, hbatch, hbuild, hrecords, hreturned, rfl⟩ := random_eq_ok h
  have hdrawn := isDrawn_of_mem_batch hbatch
  have hcount : batch.length = count := by
    rw [← (mapM_eq_ok_iff.1 hbatch).length_eq, List.length_replicate]
  have hlength : records.length = returned.length := (mapM_eq_ok_iff.1 hreturned).length_eq
  refine ⟨batch, q, records, hbatch, hbuild, hrecords, fun hle => ⟨fun hexist => ?_, ?_⟩, ?_⟩
  · obtain ⟨⟨used, hsublist, hused⟩, hevaluated⟩ := hexist
    -- There are as many rows as were asked for, and each uses a record.
    have hrows := (mapM_eq_ok_iff.1 hused).length_eq
    rw [length_rows, hcount] at hrows
    have hused_le := hsublist.length_le
    have heq : records.length = count := by omega
    refine ⟨heq, fun r hr => ?_⟩
    rw [rows_of_length_eq hdrawn hreturned (by omega)] at hevaluated
    obtain ⟨i, hi, hrecord⟩ := exists_of_mem_right (mapM_eq_ok_iff.1 hreturned).flip hr
    exact (isData_iff_of_ofRecord hrecord).2 (hevaluated i hi)
  · rintro ⟨heq, hdata⟩
    rw [rows_of_length_eq hdrawn hreturned (by omega)]
    refine ⟨⟨records, List.Sublist.refl _, hreturned⟩, fun i hi => ?_⟩
    obtain ⟨r, hr, hrecord⟩ := exists_of_mem_right (mapM_eq_ok_iff.1 hreturned) hi
    exact (isData_iff_of_ofRecord hrecord).1 (hdata r hr)
  · intro hlt hdata
    exact rows_of_length_ne hdrawn hreturned hdata (by omega)

/-! ### A row that is skipped -/

namespace Skipped

/-- The table of the columns. -/
def table : TableName := ⟨⟨"cinema", by decide, by decide⟩, ⟨"seats", by decide, by decide⟩⟩

def key : Column where
  name := ⟨table, ⟨"seat", by decide, by decide⟩⟩
  type := .smallInt
  primaryKey := true
  unique := true
  notNull := true
  default := none
  foreignKey := none

def valid : Column where
  name := ⟨table, ⟨"valid", by decide, by decide⟩⟩
  type := .boolean
  primaryKey := false
  unique := false
  notNull := false
  default := none
  foreignKey := none

def schema : Schema where
  table := table
  columns := [key, valid]
  table_eq := by decide
  nodup := by decide

/-- A row whose values are to be drawn. -/
def row : Instance :=
  ((Instance.new schema).put 0 (.random (Generator.integer 65536 (-32768) .small).sql)).put 1
    (.random Generator.boolean.sql)

/-- The record of a row that was written. -/
def record : Record := [.smallInt 7, .bool true]

/-- A client for which a number is drawn twice, so that one of two rows is skipped. -/
def client : Client Unit := ⟨fun _ state => (.ok [record], state)⟩

/-- The insertion of two rows. -/
def query (cells : List (List InsertCell)) : InsertQuery where
  statement := Insert.statement schema .doNothing cells
  tables := [table]
  schema := schema
  rows := [row, row]
  policy := .doNothing

/-- Two rows are given, and none of them is the one that was written. -/
theorem not_rowsExist_skipped : ∃ q records rows,
    Insert.build { schema := schema, rows := [row, row] } = .ok q ∧
    q.records client () = (.ok records, ()) ∧ schema.random 2 {} client () = (.ok rows, ()) ∧
    rows = [row, row] ∧ ¬schema.RowsExist records rows := by
  have hbatch : (List.replicate 2 ()).mapM (fun _ => schema.randomRow) = .ok [row, row] := rfl
  obtain ⟨cells, hbuild⟩ : ∃ cells,
      Insert.build { schema := schema, rows := [row, row] } = .ok (query cells) := ⟨_, rfl⟩
  -- The text is not evaluated: that it is sent is known of every insertion.
  have hsent : (query cells).statement.isEmpty = false :=
    isEmpty_insertStatement schema .doNothing cells
  have hrecords : (query cells).records client () = (.ok [record], ()) :=
    records_of_not_isEmpty hsent client ()
  have hexecute : (query cells).execute client () = (.ok (1, query cells), ()) := by
    unfold InsertQuery.execute
    rw [hrecords]
    rfl
  have hrandom := random_of_build hbatch hbuild client ()
  rw [hexecute] at hrandom
  obtain ⟨batch, q, records, hbatch', hbuild', hrecords', hiff, -⟩ :=
    Schema.rowsExist_iff_of_random hrandom
  cases hbatch.symm.trans hbatch'
  cases hbuild.symm.trans hbuild'
  cases hrecords.symm.trans hrecords'
  refine ⟨query cells, [record], [row, row], hbuild, hrecords, hrandom, rfl, fun hexist => ?_⟩
  exact absurd ((hiff (by decide)).1 hexist).1 (by decide)

end Skipped

end TypedTable
