import TypedTable.Proofs.BackFill.Written
import TypedTable.Proofs.Conflict.Execution
/-!
# Insertions that some rows come back from

When fewer rows come back than were to be written, they are put into the rows of the batch by their
keys. The server stores the values that are bound for a row, so what comes back for it has the key
that it was written with (`slotKey_of_stored`), and the rows that come back have keys of their own.

`InsertQuery.holdsReturned_iff_of_execute` draws the conclusion for the rows of a batch after an
execution. Every row holds what came back for it, and all others are as they were, exactly if all
rows that something came back for have the slots of their keys set. A row whose key comes from a
default misses its values, and under `ConflictPolicy.doNothing` another row gets them.
-/

namespace TypedTable

open BackFill

variable {s : Schema}

/-! ### The known key of a row -/

/-- A value that is known is bound. -/
theorem ofSlot_of_boundValue {n : Nat} {c : Column} {e : Evaluation} {slot : Option Value}
    {w : Value} {cell : InsertCell} (hw : boundValue c e slot = some w)
    (hcell : InsertCell.ofSlot n c e slot = .ok cell) :
    cell = .bound (InsertCell.boundName c n) w := by
  obtain ⟨v, hv, hvalidate, -, hrandom⟩ := boundValue_eq_some hw
  obtain ⟨hnone, -⟩ | ⟨u, hu, ⟨sql, rfl, -⟩ | ⟨w', hvalidate', -, rfl⟩⟩ := ofSlot_cases hcell
  · cases hnone.symm.trans hv
  · cases hu.symm.trans hv
    cases (Column.validate_eq_random.2 rfl).symm.trans hvalidate
    exact absurd rfl (hrandom sql)
  · cases hu.symm.trans hv
    cases hvalidate'.symm.trans hvalidate
    rfl

/-- The server stores the known key of a row. -/
theorem getElem?_storedRow {row : Batch.Entry} {cells : List InsertCell}
    {draw : Nat → InsertCell → Value} (hcells : Insert.cells s row = .ok cells)
    {k : Fin s.columns.length} {w : Value}
    (hw : boundValue (s.get k) row.bound (row.row.slot k) = some w) :
    (storedRow draw cells)[(k : Nat)]? = some w := by
  obtain ⟨cell, hk, hcell⟩ := getElem?_cells hcells k
  obtain rfl := ofSlot_of_boundValue hw hcell
  rw [storedRow, List.getElem?_mapIdx, hk]
  rfl

/-! ### The rows that come back -/

/-- Whether a record is stored for a row of a batch. -/
def IsStored (s : Schema) (batch : List Batch.Entry) (r : Record) : Prop :=
  ∃ row ∈ batch, ∃ draw cells, Insert.cells s row = .ok cells ∧ r = storedRow draw cells

/-- What comes back from an insertion is stored for rows of the batch. -/
theorem isStored_of_write {batch : List Batch.Entry} {policy : ConflictPolicy}
    {draw : Nat → Nat → InsertCell → Value} {cells : List (List InsertCell)}
    {content after : Content} {records : List Record}
    (hcells : (Batch.sent s policy batch).mapM (Insert.cells s) = .ok cells)
    (hwrite : content.write s policy draw cells = (.ok records, after)) :
    ∀ r ∈ records, IsStored s batch r := by
  intro r hr
  obtain ⟨l, hl, rfl⟩ := List.mem_mapIdx.1 ((Content.write_spec hwrite).1.subset hr)
  obtain ⟨row, hsent, hrow⟩ := exists_of_mem_right (mapM_eq_ok_iff.1 hcells) (List.getElem_mem hl)
  exact ⟨row, (Batch.sent_sublist policy batch).subset hsent, draw l, _, hrow, rfl⟩

section Returned

variable {batch : List Batch.Entry} (hknown : ∀ row ∈ batch, IsKnown s row) {r : Record}
  {h : Instance} (hr : IsStored s batch r)
  (hrecord : Instance.ofRecord s (List.finRange s.columns.length) r = .ok h)

include hknown hr hrecord

/-- A row that comes back has the values of the key that are stored. -/
theorem slot_of_stored {k : Fin s.columns.length} (hk : k ∈ s.keyPositions) :
    ∃ w, w ≠ .null ∧ r[(k : Nat)]? = some w ∧ h.slot k = some w := by
  obtain ⟨row, hrow, draw, cells, hcells, rfl⟩ := hr
  obtain ⟨w, hw⟩ := Option.isSome_iff_exists.1 (hknown row hrow k hk)
  obtain ⟨v, -, hvalidate, hnull, -⟩ := boundValue_eq_some hw
  have hstored : (storedRow draw cells)[(k : Nat)]? = some w := getElem?_storedRow hcells hw
  obtain ⟨u, w', hu, hconvert, hslot⟩ := Instance.slot_ofRecord hrecord k
  cases hstored.symm.trans hu
  -- What was bound is in the form of the column already.
  have hsame := Column.convert_convert (Column.convert_of_validate hvalidate hnull)
  cases hconvert.symm.trans hsame
  exact ⟨w, hnull, hstored, hslot⟩

theorem isReturned_of_stored : IsReturned s h := by
  constructor
  · rw [h.length_slots, (Instance.ofRecord_cases hrecord).2.1]
  · intro k hk
    obtain ⟨_, w, -, -, hslot⟩ := Instance.slot_ofRecord hrecord ⟨k, hk⟩
    exact Option.isSome_iff_exists.2 ⟨w, hslot⟩
  · intro k hk hnull
    obtain ⟨w, hw, -, hslot⟩ := slot_of_stored hknown hr hrecord hk
    exact hw (Option.some.inj (hslot.symm.trans hnull))

theorem slotKey_of_stored : slotKey s h = s.keyOf r := by
  refine List.map_congr_left fun k hk => ?_
  obtain ⟨w, -, hstored, hslot⟩ := slot_of_stored hknown hr hrecord hk
  rw [hstored, hslot]

end Returned

/-- Rows that come back have keys of their own if the records have. -/
theorem pairwise_slotKey {batch : List Batch.Entry} (hknown : ∀ row ∈ batch, IsKnown s row)
    {records : List Record} {returned : List Instance} (hstored : ∀ r ∈ records, IsStored s batch r)
    (hrecords : records.mapM (Instance.ofRecord s (List.finRange s.columns.length)) =
      .ok returned)
    (hpairwise : records.Pairwise fun r r' => Batch.sameKey (s.keyOf r) (s.keyOf r') = false) :
    returned.Pairwise fun h h' => Batch.sameKey (slotKey s h) (slotKey s h') = false := by
  -- The keys of the rows that come back are those of the records, one for one.
  have hkeys : returned.map (slotKey s) = records.map s.keyOf := by
    have hforall := (List.forall₂_and_left records returned).2 ⟨hstored, mapM_eq_ok_iff.1 hrecords⟩
    have hequal : List.Forall₂ (fun r h => s.keyOf r = slotKey s h) records returned :=
      hforall.imp fun r h hrh => (slotKey_of_stored hknown hrh.1 hrh.2).symm
    rw [← List.forall₂_map_right_iff, ← List.forall₂_map_left_iff, List.forall₂_eq_eq_eq] at hequal
    exact hequal.symm
  rw [← List.pairwise_map (R := fun key key' => Batch.sameKey key key' = false), hkeys,
    List.pairwise_map]
  exact hpairwise

/-! ### Execution -/

theorem keyPositions_ne_nil (hkey : s.hasPrimaryKey = true) : s.keyPositions ≠ [] := by
  obtain ⟨c, hc, hprimary⟩ := List.any_eq_true.1 hkey
  obtain ⟨k, hk, rfl⟩ := List.getElem_of_mem hc
  have hmem : (⟨k, hk⟩ : Fin s.columns.length) ∈ s.keyPositions :=
    List.mem_filter.2 ⟨List.mem_finRange _, hprimary⟩
  exact List.ne_nil_of_mem hmem

/-- A statement that is not blank is sent. -/
theorem records_of_not_isEmpty {σ : Type} {q : Query} (h : q.statement.isEmpty = false)
    (client : Client σ) (state : σ) : q.records client state = client.query q.statement state := by
  unfold Query.records Query.isNoop
  rw [h, if_neg (by decide)]

/-- A client sends a statement that is not blank with numbered parameters. -/
theorem records_ofServer {q : Query} (hsent : q.statement.isEmpty = false)
    (answer : Positional → Content → Except Error (List Record) × Content) (content : Content) :
    q.records (.ofServer answer) content =
      match q.statement.positional with
      | .ok p => answer p content
      | .error e => (.error e, content) := by
  rw [records_of_not_isEmpty hsent]
  rfl

/-- What an execution that succeeds went through. -/
theorem execute_eq_ok {σ : Type} {b after : InsertQuery} {client : Client σ} {state state' : σ}
    {n : Nat} (h : b.execute client state = (.ok (n, after), state')) :
    ∃ records returned, b.records client state = (.ok records, state') ∧ records.length = n ∧
      records.mapM (Instance.ofRecord b.schema (List.finRange b.schema.columns.length)) =
        .ok returned ∧
      after.rows = BackFill.rows b.schema b.policy b.rows returned := by
  unfold InsertQuery.execute at h
  cases hrecords : b.records client state with
  | mk result state'' =>
    rw [hrecords] at h
    obtain ⟨hresult, rfl⟩ := Prod.mk.inj h
    obtain ⟨records, rfl, hresult⟩ := bind_eq_ok.1 hresult
    obtain ⟨q, hq, hpair⟩ := map_eq_ok.1 hresult
    obtain ⟨hn, rfl⟩ := Prod.mk.inj hpair
    obtain ⟨returned, hreturned, hq⟩ := bind_eq_ok.1 hq
    cases hq
    exact ⟨records, returned, rfl, hn, hreturned, rfl⟩

/-- A batch of rows with a key has a statement. -/
theorem statement_of_build {rows : List Instance} {policy : ConflictPolicy}
    {e : Batch.Evaluations} {b : InsertQuery} (hkey : s.hasPrimaryKey = true) (hrows : rows ≠ [])
    (hbuild : Insert.build ⟨s, rows, policy, e⟩ = .ok b) :
    ∃ cells, (Batch.sent s policy (Batch.entries e rows)).mapM (Insert.cells s) = .ok cells ∧
      b.statement = Insert.statement s policy cells := by
  obtain ⟨-, hrender, -⟩ := Insert.build_eq_ok hbuild
  rcases Insert.render_eq_ok hrender with ⟨hempty | hempty, -⟩ | h
  · exact absurd hempty hrows
  · have hcolumns : s.columns = [] := hempty
    rw [Schema.hasPrimaryKey, hcolumns] at hkey
    exact absurd hkey (by decide)
  · exact h

/-- After an execution that fewer rows came back from than were to be written, every row holds the
row that came back for it, and all others are as they were, exactly if every row that something
came back for has the slots of its key set.

The server is asked for one thing only: it runs the insertion of the cells that the statement was
written for, and goes by the text for what becomes of rows whose keys are there and for what comes
back. `Insert.exists_read` says that the cells are read so. Computed defaults may give anything. -/
theorem InsertQuery.holdsReturned_iff_of_execute {rows : List Instance} {policy : ConflictPolicy}
    {e : Batch.Evaluations} {b after : InsertQuery}
    {answer : Positional → Content → Except Error (List Record) × Content}
    {draw : Nat → Nat → InsertCell → Value} {content content' : Content} {n : Nat}
    (hkey : s.hasPrimaryKey = true) (hmade : ∀ i ∈ rows, i.Made s)
    (hknown : ∀ row ∈ Batch.entries e rows, IsKnown s row)
    (hbuild : Insert.build ⟨s, rows, policy, e⟩ = .ok b)
    (hserver : ∀ cells p,
      (Batch.sent s policy (Batch.entries e rows)).mapM (Insert.cells s) = .ok cells →
      b.statement.positional = .ok p → answer p content = content.run s p.sql draw cells)
    (hexecute : b.execute (.ofServer answer) content = (.ok (n, after), content'))
    (hfewer : n < rows.length) :
    ∃ cells records returned,
      (Batch.sent s policy (Batch.entries e rows)).mapM (Insert.cells s) = .ok cells ∧
      content.write s policy draw cells = (.ok records, content') ∧ records.length = n ∧
      records.mapM (Instance.ofRecord s (List.finRange s.columns.length)) = .ok returned ∧
      (HoldsReturned s policy (Batch.entries e rows) returned after.rows ↔
        ∀ h ∈ returned, ∀ j row, (Batch.entries e rows)[j]? = some row →
          IsEntitled s policy (Batch.entries e rows) h j → HasSlotKey s row.row) := by
  have hrows : rows ≠ [] := List.ne_nil_of_length_pos (Nat.zero_lt_of_lt hfewer)
  obtain ⟨cells, hcells, hstatement⟩ := statement_of_build hkey hrows hbuild
  obtain ⟨-, -, hschema, hbatch, hpolicy⟩ := Insert.build_eq_ok hbuild
  obtain ⟨records, returned, hrecords, hn, hreturned, hafter⟩ := execute_eq_ok hexecute
  rw [hschema] at hreturned
  rw [hschema, hbatch, hpolicy] at hafter
  -- What comes back is what the server has written.
  have hsent : b.statement.isEmpty = false := by
    rw [hstatement]
    exact isEmpty_insertStatement s policy cells
  have hwrite : content.write s policy draw cells = (.ok records, content') := by
    rw [records_ofServer hsent] at hrecords
    split at hrecords
    · next p hp =>
      have hread := Insert.ofText?_positional hkey (hstatement ▸ hp)
      rw [← Content.run_eq_write hread (length_of_mem_cells hcells) draw content]
      exact (hserver cells p hcells hp).symm.trans hrecords
    · exact (nomatch hrecords)
  have hstored := isStored_of_write hcells hwrite
  have hcomplete : ∀ h ∈ returned, IsReturned s h := by
    intro h hh
    obtain ⟨r, hr, hrecord⟩ := exists_of_mem_right (mapM_eq_ok_iff.1 hreturned) hh
    exact isReturned_of_stored hknown (hstored r hr) hrecord
  -- Rows are filled by key.
  have hlength : returned.length ≠ rows.length := by
    rw [← (mapM_eq_ok_iff.1 hreturned).length_eq, hn]
    exact Nat.ne_of_lt hfewer
  have hpositions : ¬s.keyPositions.isEmpty = true := by
    rw [List.isEmpty_iff]
    exact keyPositions_ne_nil hkey
  refine ⟨cells, records, returned, hcells, hwrite, hn, hreturned, ?_⟩
  have hiff := @holdsReturned_iff s policy _ _ (Batch.forall_mem_entries hmade) hknown hcomplete
    (pairwise_slotKey hknown hstored hreturned (Content.write_spec hwrite).2)
  rw [Batch.map_row_entries] at hiff
  rw [hafter, BackFill.rows, if_neg hlength, if_neg hpositions]
  exact hiff

/-! ### A row whose key comes from a default -/

namespace Defaulted

/-- The table of the columns. -/
def table : TableName := ⟨⟨"public", by decide, by decide⟩, ⟨"users", by decide, by decide⟩⟩

/-- The key, which has a default. -/
def key : Column where
  name := ⟨table, ⟨"id", by decide, by decide⟩⟩
  type := .text
  primaryKey := true
  unique := true
  notNull := true
  default := some (.constant (.text "k"))
  foreignKey := none

def label : Column where
  name := ⟨table, ⟨"name", by decide, by decide⟩⟩
  type := .text
  primaryKey := false
  unique := false
  notNull := false
  default := none
  foreignKey := none

def schema : Schema where
  table := table
  columns := [key, label]
  table_eq := by decide
  nodup := by decide

/-- A row that is written with the default of the key. -/
def unkeyed : Instance := (Instance.new schema).put 1 (.text "a")

/-- A row that has the same key in its slots. -/
def keyed : Instance := ((Instance.new schema).put 0 (.text "k")).put 1 (.text "b")

/-- The cells of the one row that is sent: of two rows with a key the last. -/
def cells : List (List InsertCell) :=
  [[.bound "users_id_1" (.text "k"), .bound "users_name_1" (.text "b")]]

/-- A server that runs the insertion as its text says. -/
def answer (p : Positional) (content : Content) : Except Error (List Record) × Content :=
  content.run schema p.sql (fun _ _ _ => .null) cells

theorem made {i : Instance} (hi : i ∈ [unkeyed, keyed]) : i.Made schema := by
  rcases List.mem_pair.1 hi with rfl | rfl
  · exact @Instance.Made.set schema _ unkeyed "name" (.text "a") .new rfl
  · have hid : ((Instance.new schema).put 0 (.text "k")).Made schema :=
      @Instance.Made.set schema _ _ "id" (.text "k") .new rfl
    exact @Instance.Made.set schema _ keyed "name" (.text "b") hid rfl

theorem isKnown {row : Batch.Entry} (hrow : row ∈ Batch.entries {} [unkeyed, keyed]) :
    IsKnown schema row := by
  rcases List.mem_pair.1 hrow with rfl | rfl <;> unfold IsKnown <;> decide

theorem isPlain : ∀ c ∈ cells.flatten, c.IsPlain := by
  intro c hc
  rcases List.mem_pair.1 hc with rfl | rfl
  · exact isName_cell key 1
  · exact isName_cell label 1

/-- The row that comes back has the key of both rows, but only the second one is filled. -/
theorem not_holdsReturned : ∃ b after content',
    Insert.build ⟨schema, [unkeyed, keyed], .upsert, {}⟩ = .ok b ∧
    b.execute (.ofServer answer) [] = (.ok (1, after), content') ∧
    ¬HoldsReturned schema .upsert (Batch.entries {} [unkeyed, keyed]) [keyed] after.rows := by
  have hsent : (Insert.statement schema .upsert cells).isEmpty = false :=
    isEmpty_insertStatement schema .upsert cells
  obtain ⟨b, hbuild, hstatement⟩ : ∃ b,
      Insert.build ⟨schema, [unkeyed, keyed], .upsert, {}⟩ = .ok b ∧
      b.statement = Insert.statement schema .upsert cells := ⟨_, rfl, rfl⟩
  -- The text is not evaluated: that it can be sent is known of every insertion.
  obtain ⟨p, hp, -⟩ :=
    (Insert.writes_insertStatement (s := schema) isPlain .upsert).exists_positional
  have hrun : answer p [] = Content.write schema .upsert (fun _ _ _ => .null) cells [] :=
    Content.run_eq_write (Insert.ofText?_positional rfl hp) (by decide) _ _
  obtain ⟨after, content', hexecute⟩ : ∃ after content',
      b.execute (.ofServer answer) [] = (.ok (1, after), content') := by
    unfold InsertQuery.execute
    rw [records_ofServer (hstatement ▸ hsent), hstatement, hp]
    dsimp only
    rw [hrun]
    cases hbuild
    exact ⟨_, _, rfl⟩
  have hserver : ∀ cells p,
      (Batch.sent schema .upsert (Batch.entries {} [unkeyed, keyed])).mapM (Insert.cells schema) =
        .ok cells →
      b.statement.positional = .ok p →
      answer p [] = Content.run schema p.sql (fun _ _ _ => .null) cells [] := by
    intro cells p hcells _
    cases hcells
    rfl
  have hmade : ∀ i ∈ [unkeyed, keyed], i.Made schema := fun _ => made
  obtain ⟨_, _, returned, hcells, hwrite, -, hreturned, hiff⟩ :=
    InsertQuery.holdsReturned_iff_of_execute rfl hmade (fun _ => isKnown) hbuild hserver
      hexecute (by decide)
  cases hcells
  cases hwrite
  cases hreturned
  refine ⟨b, after, _, hbuild, hexecute, fun hholds => ?_⟩
  -- The default is the key that the first row is written with.
  have hentitled : IsEntitled schema .upsert (Batch.entries {} [unkeyed, keyed]) keyed 0 :=
    ⟨⟨_, rfl, by decide⟩, fun h => (nomatch h)⟩
  have hset := hiff.1 hholds keyed List.mem_cons_self 0 _ rfl hentitled
  exact absurd (hset ⟨0, by decide⟩ (by decide)) (by decide)

end Defaulted

end TypedTable
