import TypedTable.Proofs.Upsert.Stored
import TypedTable.Proofs.Upsert.Table
/-!
# Upserts in one statement and one by one

A batch that is upserted in one statement is to leave the table that its rows leave when they are
upserted one after the other. The statement sends the rows of a batch that no later one shares a
known key with. `upsert_iff_of_upsertEach` says what comes of that where the rows can be upserted
one by one:

* The statement is refused exactly if two of the rows that it sends are stored under one key. Keys
  are compared before computed defaults are called once more for what is written, so this happens.
* If all keys are known and every row keeps its key, it succeeds and leaves the same table: the rows
  that it leaves out would have been replaced anyhow.

The server has no constraints but the key and columns without nulls, gives the same for a default or
SQL text of a column in every row, and goes by the text that it is sent for what becomes of rows
whose keys are there (`Serves`). So a row is stored as the same record by both.
-/

namespace TypedTable

variable {s : Schema} {value : Nat → InsertCell → Value}

/-! ### Running insertions -/

/-- Builds an insertion and runs it. -/
def Insert.execute {σ : Type} (q : Insert) (client : Client σ) (state : σ) :
    Except Error (Nat × InsertQuery) × σ :=
  match q.build with
  | .error e => (.error e, state)
  | .ok b => b.execute client state

namespace Batch

/-- The row as the only one of a batch. -/
def Entry.single (row : Entry) : Entry := { row with number := 0 }

/-- The upsert of a row in a statement of its own. Computed defaults give what they give in the
batch. -/
def Entry.upsertAlone (s : Schema) (row : Entry) : Insert :=
  ⟨s, [row.row], .upsert, ⟨fun _ => row.compared, fun _ => row.bound⟩⟩

/-- Whether a number is that of the keys in a batch. -/
def CountsKeys (s : Schema) (batch : List Entry) (n : Nat) : Prop :=
  ∃ keys : List (List Value), keys.length = n ∧
    (keys.Pairwise fun key key' => sameKey key key' = false) ∧
    (∀ key ∈ keys, ∃ row ∈ batch, keyOf s row = some key) ∧
    ∀ row ∈ batch, ∃ key, keyOf s row = some key ∧ ∃ key' ∈ keys, sameKey key key' = true

end Batch

/-- Upserts rows one after the other, each in a statement of its own, until one fails. -/
def upsertEach {σ : Type} (s : Schema) (client : Client σ) :
    List Batch.Entry → σ → Except Error Unit × σ
  | [], state => (.ok (), state)
  | row :: rest, state =>
    match (row.upsertAlone s).execute client state with
    | (.error e, after) => (.error e, after)
    | (.ok _, after) => upsertEach s client rest after

/-- Whether a server runs the upsert of a batch as its text says, once it reads the values that are
meant there. The table has no constraints but its key and its columns without nulls, and the server
draws what is not sent by the column, and for SQL text by the text. -/
def Serves (answer : Positional → Content → Except Error (List Record) × Content) (s : Schema)
    (value : Nat → InsertCell → Value) (batch : List Batch.Entry) : Prop :=
  ∀ cells p content, (Batch.sent s .upsert batch).mapM (Insert.cells s) = .ok cells →
    p.read = (Insert.template s .upsert cells).symbols →
    answer p content = content.run s p.sql (fun _ => value) cells

/-- Whether no two rows are stored under one key. -/
def StoredApart (s : Schema) (value : Nat → InsertCell → Value) (rows : List Batch.Entry) : Prop :=
  rows.Pairwise fun row row' => ∀ r r', StoredAs s value row r → StoredAs s value row' r' →
    Batch.sameKey (s.keyOf r) (s.keyOf r') = false

/-! ### One statement -/

/-- Whether the server takes a record, and gives it back as a row of the table. -/
structure Accepted (s : Schema) (r : Record) : Prop where
  admits : s.admits r = true
  returns : ∃ i, Instance.ofRecord s (List.finRange s.columns.length) r = .ok i

/-- What an execution needs to succeed. -/
theorem execute_of_records {σ : Type} {b : InsertQuery} {client : Client σ} {state state' : σ}
    {records : List Record} (hrecords : b.records client state = (.ok records, state'))
    (hreturns : ∀ r ∈ records, ∃ i,
      Instance.ofRecord b.schema (List.finRange b.schema.columns.length) r = .ok i) :
    ∃ after, b.execute client state = (.ok (records.length, after), state') := by
  obtain ⟨returned, hreturned⟩ := exists_mapM_eq_ok hreturns
  refine ⟨{ b with rows := BackFill.rows b.schema b.policy b.rows returned }, ?_⟩
  have hbackFill : b.backFill records =
      .ok { b with rows := BackFill.rows b.schema b.policy b.rows returned } :=
    bind_eq_ok.2 ⟨returned, hreturned, rfl⟩
  unfold InsertQuery.execute
  rw [hrecords]
  simp only [Except.bind, hbackFill, Except.map]

/-- Rows of a table with a key are upserted with the statement that is rendered for them. -/
theorem build_of_render {rows : List Instance} {e : Batch.Evaluations} {statement : Statement}
    (hkey : s.hasPrimaryKey = true) (hmade : ∀ i ∈ rows, i.Made s)
    (hrender : Insert.render ⟨s, rows, .upsert, e⟩ = .ok statement) :
    Insert.build ⟨s, rows, .upsert, e⟩ = .ok ⟨⟨statement, [s.table]⟩, s, rows, .upsert⟩ := by
  refine Insert.build_eq_ok_iff.2 ⟨fun i hi => ?_, fun _ => hkey, statement, hrender, rfl⟩
  simp [Instance.isOf, (hmade i hi).schema_eq]

/-- The cells of rows that are stored. -/
theorem exists_cells_of_storedAs {sent : List Batch.Entry} {records : List Record}
    (h : List.Forall₂ (StoredAs s value) sent records) :
    ∃ cells, sent.mapM (Insert.cells s) = .ok cells ∧ cells.map (storedRow value) = records := by
  induction h with
  | nil => exact ⟨[], rfl, rfl⟩
  | @cons row r sent records hrow _ ih =>
    obtain ⟨cells, hcells, hrecords⟩ := ih
    obtain ⟨first, hfirst, hrecord⟩ := hrow
    refine ⟨first :: cells, mapM_eq_ok_iff.2 (.cons hfirst (mapM_eq_ok_iff.1 hcells)), ?_⟩
    rw [List.map_cons, hrecord, hrecords]

theorem mapIdx_storedRow (cells : List (List InsertCell)) :
    cells.mapIdx (fun _ row => storedRow value row) = cells.map (storedRow value) :=
  List.ext_getElem? fun k => by rw [List.getElem?_mapIdx, List.getElem?_map]

/-- Records that the server takes and that have keys of their own are put into the table one after
the other. -/
theorem write_upsert {cells : List (List InsertCell)}
    (hadmits : ∀ r ∈ cells.map (storedRow value), s.admits r = true)
    (hpairwise : (cells.map (storedRow value)).Pairwise fun r r' =>
      Batch.sameKey (s.keyOf r) (s.keyOf r') = false) (content : Content) :
    content.write s .upsert (fun _ => value) cells =
      (.ok (cells.map (storedRow value)),
        (cells.map (storedRow value)).foldl (Content.put s) content) := by
  have hput : content.putAll s [] (cells.map (storedRow value)) = some _ :=
    Content.putAll_eq_some content (fun _ _ => rfl) hpairwise
  unfold Content.write
  simp only [mapIdx_storedRow, List.all_eq_true.2 hadmits, if_true, hput]

/-- What is written is admitted, and has keys of its own. -/
theorem write_upsert_eq_ok {cells : List (List InsertCell)} {content after : Content}
    {records : List Record}
    (h : content.write s .upsert (fun _ => value) cells = (.ok records, after)) :
    records = cells.map (storedRow value) ∧ (∀ r ∈ records, s.admits r = true) ∧
      records.Pairwise fun r r' => Batch.sameKey (s.keyOf r) (s.keyOf r') = false := by
  have hpairwise := (Content.write_spec h).2
  unfold Content.write at h
  simp only [mapIdx_storedRow] at h
  split at h
  · next hadmits =>
    split at h
    · cases h
      exact ⟨rfl, List.all_eq_true.1 hadmits, hpairwise⟩
    · cases h
  · cases h

section Statement

variable {answer : Positional → Content → Except Error (List Record) × Content}

/-- A server that is sent the upsert of a batch writes the cells of its rows. -/
theorem records_upsert {q : Query} {batch : List Batch.Entry} {cells : List (List InsertCell)}
    (hkey : s.hasPrimaryKey = true) (hnumbered : Batch.Numbered batch)
    (hinert : ∀ row ∈ batch, row.IsInert s) (hserves : Serves answer s value batch)
    (hcells : (Batch.sent s .upsert batch).mapM (Insert.cells s) = .ok cells)
    (hq : q.statement = Insert.statement s .upsert cells) (content : Content) :
    q.records (.ofServer answer) content = content.write s .upsert (fun _ => value) cells := by
  obtain ⟨p, hp, hread⟩ := Insert.exists_read hnumbered hcells hinert
  have hsent : q.statement.isEmpty = false := by
    rw [hq]
    exact isEmpty_insertStatement s .upsert cells
  rw [records_ofServer hsent, hq, hp]
  exact (hserves cells p content hcells hread).trans
    (Content.run_eq_write (Insert.ofText?_positional hkey hp) (length_of_mem_cells hcells) _ content)

section Rows

variable {rows : List Instance} {e : Batch.Evaluations} {records : List Record}
  (hkey : s.hasPrimaryKey = true) (hinert : ∀ row ∈ Batch.entries e rows, row.IsInert s)
  (hserves : Serves answer s value (Batch.entries e rows))
  (hstored : List.Forall₂ (StoredAs s value) (Batch.sent s .upsert (Batch.entries e rows)) records)

include hkey hinert hserves hstored

/-- A batch is upserted if the records of the rows that are sent are accepted and have keys of their
own; then these are put into the table one after the other. -/
theorem execute_upsert (hmade : ∀ i ∈ rows, i.Made s) (haccepted : ∀ r ∈ records, Accepted s r)
    (hpairwise : records.Pairwise fun r r' => Batch.sameKey (s.keyOf r) (s.keyOf r') = false)
    (content : Content) :
    ∃ after, Insert.execute ⟨s, rows, .upsert, e⟩ (.ofServer answer) content =
      (.ok (records.length, after), records.foldl (Content.put s) content) := by
  have hreturns := fun r hr => (haccepted r hr).returns
  unfold Insert.execute
  by_cases hrows : rows = []
  · -- Without rows nothing is sent.
    subst hrows
    cases hstored
    have hrender : Insert.render ⟨s, [], .upsert, e⟩ = .ok .empty := rfl
    rw [build_of_render hkey hmade hrender]
    exact execute_of_records rfl hreturns
  · obtain ⟨cells, hcells, rfl⟩ := exists_cells_of_storedAs hstored
    have hwrite := write_upsert (fun r hr => (haccepted r hr).admits) hpairwise content
    have hrender := Insert.render_of_cells (q := ⟨s, rows, .upsert, e⟩) hrows
      (Schema.columns_ne_nil hkey) hcells
    rw [build_of_render hkey hmade hrender]
    refine execute_of_records ?_ hreturns
    rw [← hwrite]
    exact records_upsert hkey (Batch.numbered_entries e rows) hinert hserves hcells rfl content

/-- The records of a batch that is upserted are admitted, have keys of their own, and come back as
rows. -/
theorem execute_upsert_eq_ok {content after : Content} {result : Nat × InsertQuery}
    (h : Insert.execute ⟨s, rows, .upsert, e⟩ (.ofServer answer) content = (.ok result, after)) :
    (∀ r ∈ records, Accepted s r) ∧
      records.Pairwise fun r r' => Batch.sameKey (s.keyOf r) (s.keyOf r') = false := by
  by_cases hrows : rows = []
  · subst hrows
    cases hstored
    exact ⟨fun r hr => absurd hr List.not_mem_nil, .nil⟩
  · unfold Insert.execute at h
    split at h
    · exact (nomatch h)
    · next b hbuild =>
      obtain ⟨cells, hcells, hstatement⟩ := statement_of_build hkey hrows hbuild
      obtain ⟨-, -, hschema, -, -⟩ := Insert.build_eq_ok hbuild
      obtain ⟨written, returned, hwritten, -, hreturned, -⟩ := execute_eq_ok h
      rw [records_upsert hkey (Batch.numbered_entries e rows) hinert hserves hcells hstatement
        content] at hwritten
      obtain ⟨rfl, hadmits, hpairwise⟩ := write_upsert_eq_ok hwritten
      obtain ⟨cells', hcells', rfl⟩ := exists_cells_of_storedAs hstored
      cases hcells.symm.trans hcells'
      rw [hschema] at hreturned
      refine ⟨fun r hr => ⟨hadmits r hr, ?_⟩, hpairwise⟩
      obtain ⟨i, -, hi⟩ := exists_of_mem_right (mapM_eq_ok_iff.1 hreturned).flip hr
      exact ⟨i, hi⟩

end Rows

/-! ### Single rows -/

/-- A single row is sent whatever its key is. -/
theorem sent_singleton (s : Schema) (row : Batch.Entry) : Batch.sent s .upsert [row] = [row] := by
  rw [Batch.sent_cons, if_neg]
  · rfl
  · intro hoccurs
    obtain ⟨later, hlater, -⟩ := Batch.occurs_iff.1 hoccurs
    exact absurd hlater List.not_mem_nil

/-- A row that is upserted alone is the only one that is sent. -/
theorem forall₂_single {row : Batch.Entry} {r : Record} (h : StoredAs s value row r) :
    List.Forall₂ (StoredAs s value) (Batch.sent s .upsert [row.single]) [r] := by
  rw [sent_singleton]
  exact .cons (h.renumber 0) .nil

/-- One row that is upserted is stored as a record that the server accepts. -/
theorem exists_storedAs_of_execute {row : Batch.Entry} {content after : Content}
    {result : Nat × InsertQuery} (hkey : s.hasPrimaryKey = true)
    (h : (row.upsertAlone s).execute (.ofServer answer) content = (.ok result, after)) :
    ∃ r, StoredAs s value row r := by
  unfold Insert.execute at h
  split at h
  · exact (nomatch h)
  · next b hbuild =>
    obtain ⟨cells, hcells, -⟩ := statement_of_build hkey (List.cons_ne_nil row.row []) hbuild
    have hcells : (Batch.sent s .upsert [row.single]).mapM (Insert.cells s) = .ok cells := hcells
    rw [sent_singleton, mapM_eq_ok_iff] at hcells
    cases hcells with
    | cons hrow _ =>
      have hsingle : StoredAs s value row.single _ := ⟨_, hrow, rfl⟩
      exact ⟨_, hsingle.renumber row.number⟩

/-- A row of a batch that can be upserted alone. -/
structure Batch.Entry.Upsertable (s : Schema)
    (answer : Positional → Content → Except Error (List Record) × Content)
    (value : Nat → InsertCell → Value) (row : Batch.Entry) : Prop where
  made : row.row.Made s
  isInert : row.IsInert s
  serves : Serves answer s value [row.single]

/-- A row that is stored as a record that the server accepts is upserted alone by putting it into
the table. -/
theorem execute_upsertAlone {row : Batch.Entry} {r : Record} (hkey : s.hasPrimaryKey = true)
    (hrow : row.Upsertable s answer value) (hstored : StoredAs s value row r)
    (haccepted : Accepted s r) (content : Content) :
    ∃ result, (row.upsertAlone s).execute (.ofServer answer) content =
      (.ok result, content.put s r) := by
  have hinert : ∀ other ∈ (row.upsertAlone s).batch, other.IsInert s :=
    List.forall_mem_singleton.2 hrow.isInert
  obtain ⟨after, hexecute⟩ := execute_upsert hkey hinert hrow.serves (forall₂_single hstored)
    (List.forall_mem_singleton.2 hrow.made) (List.forall_mem_singleton.2 haccepted)
    (List.pairwise_singleton _ r) content
  exact ⟨_, hexecute⟩

/-- A row that is upserted alone is stored as a record that the server accepts, which is put into
the table. -/
theorem upsertAlone_eq_ok {row : Batch.Entry} {content after : Content}
    {result : Nat × InsertQuery} (hkey : s.hasPrimaryKey = true)
    (hrow : row.Upsertable s answer value)
    (h : (row.upsertAlone s).execute (.ofServer answer) content = (.ok result, after)) :
    ∃ r, StoredAs s value row r ∧ Accepted s r ∧ after = content.put s r := by
  obtain ⟨r, hstored⟩ : ∃ r, StoredAs s value row r := exists_storedAs_of_execute hkey h
  have hinert : ∀ other ∈ (row.upsertAlone s).batch, other.IsInert s :=
    List.forall_mem_singleton.2 hrow.isInert
  obtain ⟨haccepted, -⟩ := execute_upsert_eq_ok hkey hinert hrow.serves (forall₂_single hstored) h
  have hr := List.forall_mem_singleton.1 haccepted
  obtain ⟨result', hexecute⟩ := execute_upsertAlone hkey hrow hstored hr content
  cases h.symm.trans hexecute
  exact ⟨r, hstored, hr, rfl⟩

/-- Rows that are upserted one after the other are stored as records that the server accepts, which
are put into the table one after the other. -/
theorem upsertEach_eq_ok {batch : List Batch.Entry} {content after : Content}
    (hkey : s.hasPrimaryKey = true) (hbatch : ∀ row ∈ batch, row.Upsertable s answer value)
    (h : upsertEach s (.ofServer answer) batch content = (.ok (), after)) :
    ∃ records, List.Forall₂ (StoredAs s value) batch records ∧ (∀ r ∈ records, Accepted s r) ∧
      after = records.foldl (Content.put s) content := by
  induction batch generalizing content with
  | nil =>
    cases h
    exact ⟨[], .nil, fun r hr => absurd hr List.not_mem_nil, rfl⟩
  | cons row rest ih =>
    obtain ⟨hrow, hrest⟩ := List.forall_mem_cons.1 hbatch
    rw [upsertEach] at h
    split at h
    · exact (nomatch h)
    · next result content' hexecute =>
      obtain ⟨r, hstored, haccepted, rfl⟩ := upsertAlone_eq_ok hkey hrow hexecute
      obtain ⟨records, hrecords, hall, rfl⟩ := ih hrest h
      exact ⟨r :: records, .cons hstored hrecords, List.forall_mem_cons.2 ⟨haccepted, hall⟩, rfl⟩

/-- Rows with records that the server accepts can be upserted one after the other. -/
theorem upsertEach_of_storedAs {batch : List Batch.Entry} {records : List Record}
    (hkey : s.hasPrimaryKey = true) (hbatch : ∀ row ∈ batch, row.Upsertable s answer value)
    (hstored : List.Forall₂ (StoredAs s value) batch records)
    (haccepted : ∀ r ∈ records, Accepted s r) (content : Content) :
    upsertEach s (.ofServer answer) batch content =
      (.ok (), records.foldl (Content.put s) content) := by
  induction hstored generalizing content with
  | nil => rfl
  | @cons row r rest records hrow _ ih =>
    obtain ⟨hbatch_row, hbatch⟩ := List.forall_mem_cons.1 hbatch
    obtain ⟨hr, haccepted⟩ := List.forall_mem_cons.1 haccepted
    obtain ⟨result, hexecute⟩ := execute_upsertAlone hkey hbatch_row hrow hr content
    rw [upsertEach, hexecute]
    exact ih hbatch haccepted (content.put s r)

end Statement

/-! ### The rows that are left out -/

/-- The rows that are sent are stored as some of the records of all rows. -/
theorem exists_records_sent {batch : List Batch.Entry} {records : List Record}
    (h : List.Forall₂ (StoredAs s value) batch records) :
    ∃ kept, List.Forall₂ (StoredAs s value) (Batch.sent s .upsert batch) kept ∧
      ∀ r ∈ kept, r ∈ records := by
  induction h with
  | nil => exact ⟨[], .nil, fun r hr => hr⟩
  | @cons row r rest records hrow hrest ih =>
    obtain ⟨kept, hkept, hsub⟩ := ih
    rw [Batch.sent_cons]
    split
    · exact ⟨kept, hkept, fun r hr => List.mem_cons_of_mem _ (hsub r hr)⟩
    · exact ⟨r :: kept, .cons hrow hkept, List.cons_subset_cons r hsub⟩

/-- Rows are stored under different keys if their records have keys of their own. -/
theorem storedApart_iff {rows : List Batch.Entry} {records : List Record}
    (h : List.Forall₂ (StoredAs s value) rows records) : StoredApart s value rows ↔
      records.Pairwise fun r r' => Batch.sameKey (s.keyOf r) (s.keyOf r') = false := by
  constructor
  · intro hapart
    exact pairwise_of_forall₂ h hapart fun hr hr' hkeys => hkeys _ _ hr hr'
  · intro hpairwise
    refine pairwise_of_forall₂ h.flip hpairwise fun hr hr' hkeys r r' hstored hstored' => ?_
    rw [hstored.unique hr, hstored'.unique hr']
    exact hkeys

section Kept

variable {batch : List Batch.Entry} (hmade : ∀ row ∈ batch, row.row.Made s)
  (hkeeps : ∀ row ∈ batch, row.KeepsKey s)

include hmade hkeeps

/-- The records of the rows that are sent make the same table as those of all rows: a row that is
left out would be replaced by a later one. -/
theorem foldl_put_sent {records kept : List Record}
    (h : List.Forall₂ (StoredAs s value) batch records)
    (hkept : List.Forall₂ (StoredAs s value) (Batch.sent s .upsert batch) kept)
    (content : Content) :
    (kept.foldl (Content.put s) content).Perm (records.foldl (Content.put s) content) := by
  -- By the recursion of the batch: the first row is left out if its key comes again behind it.
  induction h generalizing kept content with
  | nil =>
    cases hkept
    exact .refl content
  | @cons row r rest records hrow hrest ih =>
    obtain ⟨hmade_row, hmade⟩ := List.forall_mem_cons.1 hmade
    obtain ⟨hkeeps_row, hkeeps⟩ := List.forall_mem_cons.1 hkeeps
    rw [Batch.sent_cons] at hkept
    split at hkept
    · next hoccurs =>
      obtain ⟨later, hlater, hshares⟩ := Batch.occurs_iff.1 hoccurs
      obtain ⟨r', hr', hstored⟩ := exists_of_mem_right hrest.flip hlater
      have hsame := sameKey_of_sharesKey hmade_row (hmade later hlater) hkeeps_row
        (hkeeps later hlater) hrow hstored hshares
      exact (ih hmade hkeeps hkept content).trans (Content.foldl_put_perm hr' hsame content).symm
    · cases hkept with
      | cons hrow' hkept =>
        obtain rfl := hrow'.unique hrow
        exact ih hmade hkeeps hkept _

variable (hknown : ∀ row ∈ batch, (Batch.keyOf s row).isSome) {kept : List Record}
  (hkept : List.Forall₂ (StoredAs s value) (Batch.sent s .upsert batch) kept)

include hknown hkept

/-- A record that is sent belongs to a row of the batch and has its key. -/
theorem forall₂_keyOf_sent :
    List.Forall₂ (fun row r => row ∈ batch ∧ Batch.keyOf s row = some (s.keyOf r))
      (Batch.sent s .upsert batch) kept := by
  have hrows : ∀ row ∈ Batch.sent s .upsert batch, row ∈ batch := fun row hrow =>
    (Batch.sent_sublist .upsert batch).subset hrow
  refine ((List.forall₂_and_left _ _).2 ⟨hrows, hkept⟩).imp fun row r hrow => ?_
  obtain ⟨hmem, hstored⟩ := hrow
  obtain ⟨key, hkey⟩ := Option.isSome_iff_exists.1 (hknown row hmem)
  rw [keyOf_of_storedAs (hmade row hmem) (hkeeps row hmem) hstored hkey]
  exact ⟨hmem, hkey⟩

theorem pairwise_keyOf_sent :
    kept.Pairwise fun r r' => Batch.sameKey (s.keyOf r) (s.keyOf r') = false := by
  refine pairwise_of_forall₂ (forall₂_keyOf_sent hmade hkeeps hknown hkept)
    (Batch.pairwise_sent s batch) ?_
  rintro row row' r r' ⟨-, hkey⟩ ⟨-, hkey'⟩ hdistinct
  rw [Bool.eq_false_iff]
  exact fun hsame => hdistinct ⟨_, _, hkey, hkey', hsame⟩

/-- As many records are sent as there are keys in the batch. -/
theorem countsKeys_sent (hstored : ∀ row ∈ batch, ∃ r, StoredAs s value row r) :
    Batch.CountsKeys s batch kept.length := by
  have hkeys := forall₂_keyOf_sent hmade hkeeps hknown hkept
  have hpairwise := pairwise_keyOf_sent hmade hkeeps hknown hkept
  refine ⟨kept.map s.keyOf, List.length_map .., List.pairwise_map.2 hpairwise,
    fun key hkey => ?_, fun row hrow => ?_⟩
  · obtain ⟨r, hr, rfl⟩ := List.mem_map.1 hkey
    obtain ⟨row, -, hrow, hkey⟩ := exists_of_mem_right hkeys hr
    exact ⟨row, hrow, hkey⟩
  · obtain ⟨key, hkey⟩ := Option.isSome_iff_exists.1 (hknown row hrow)
    obtain ⟨r, hr⟩ := hstored row hrow
    obtain ⟨last, hlast, key₁, key', hkey₁, hkey', hsame⟩ :=
      Batch.exists_sent_of_mem hrow (sharesKey_self (hmade row hrow) (hkeeps row hrow) hr hkey)
    obtain ⟨r', hr', -, hkey''⟩ := exists_of_mem_right hkeys.flip hlast
    cases hkey'.symm.trans hkey''
    exact ⟨key₁, hkey₁, s.keyOf r', List.mem_map_of_mem hr', hsame⟩

end Kept

/-! ### A batch and its rows -/

/-- What the statement of a batch sends, and what it does where the rows of the batch can be
upserted one after the other.

* It sends the rows that no later one is known to share its key with, whatever computed defaults
  give.
* It succeeds exactly if the rows that it sends are stored under different keys.
* If all keys are known and kept, it succeeds, leaves the same table and writes one row for every
  key. -/
theorem upsert_iff_of_upsertEach {rows : List Instance} {e : Batch.Evaluations}
    (hkey : s.hasPrimaryKey = true) (hmade : ∀ i ∈ rows, i.Made s) :
    (∀ b, rows ≠ [] → Insert.build ⟨s, rows, .upsert, e⟩ = .ok b → ∃ sent cells,
      Batch.Sends s (Batch.entries e rows) sent ∧ sent.mapM (Insert.cells s) = .ok cells ∧
      b.statement = Insert.statement s .upsert cells) ∧
    ∀ (answer : Positional → Content → Except Error (List Record) × Content)
      (value : Nat → InsertCell → Value) (content after : Content),
      (∀ row ∈ Batch.entries e rows, row.IsInert s) →
      Serves answer s value (Batch.entries e rows) →
      (∀ row ∈ Batch.entries e rows, Serves answer s value [row.single]) →
      upsertEach s (.ofServer answer) (Batch.entries e rows) content = (.ok (), after) →
      ((∃ result after',
          Insert.execute ⟨s, rows, .upsert, e⟩ (.ofServer answer) content =
            (.ok result, after')) ↔
        StoredApart s value (Batch.sent s .upsert (Batch.entries e rows))) ∧
      ((∀ row ∈ Batch.entries e rows, (Batch.keyOf s row).isSome ∧ row.KeepsKey s) →
        ∃ n b after', Insert.execute ⟨s, rows, .upsert, e⟩ (.ofServer answer) content =
            (.ok (n, b), after') ∧
          after'.Perm after ∧ Batch.CountsKeys s (Batch.entries e rows) n) := by
  constructor
  · intro b hrows hbuild
    obtain ⟨cells, hcells, hstatement⟩ := statement_of_build hkey hrows hbuild
    exact ⟨_, cells, Batch.sends_sent (Batch.numbered_entries e rows), hcells, hstatement⟩
  · intro answer value content after hinert hbatch hsingle heach
    have hmade' : ∀ row ∈ Batch.entries e rows, row.row.Made s := Batch.forall_mem_entries hmade
    obtain ⟨records, hstored, haccepted, rfl⟩ := upsertEach_eq_ok hkey
      (fun row hrow => ⟨hmade' row hrow, hinert row hrow, hsingle row hrow⟩) heach
    obtain ⟨kept, hkept, hsub⟩ := exists_records_sent hstored
    have hall : ∀ r ∈ kept, Accepted s r := fun r hr => haccepted r (hsub r hr)
    constructor
    · rw [storedApart_iff hkept]
      constructor
      · rintro ⟨result, after', hexecute⟩
        exact (execute_upsert_eq_ok hkey hinert hbatch hkept hexecute).2
      · intro hpairwise
        obtain ⟨b, hexecute⟩ :=
          execute_upsert hkey hinert hbatch hkept hmade hall hpairwise content
        exact ⟨_, _, hexecute⟩
    · intro hkeys
      have hknown := fun row hrow => (hkeys row hrow).1
      have hkeeps := fun row hrow => (hkeys row hrow).2
      obtain ⟨b, hexecute⟩ := execute_upsert hkey hinert hbatch hkept hmade hall
        (pairwise_keyOf_sent hmade' hkeeps hknown hkept) content
      refine ⟨kept.length, b, _, hexecute, foldl_put_sent hmade' hkeeps hstored hkept content,
        countsKeys_sent hmade' hkeeps hknown hkept fun row hrow => ?_⟩
      obtain ⟨r, -, hr⟩ := exists_of_mem_right hstored.flip hrow
      exact ⟨r, hr⟩

/-! ### A key that is computed -/

namespace Counted

open Defaulted (table label)

/-- The key, whose default is computed by a function. -/
def key : Column := { Defaulted.key with default := some (.computed 0) }

def schema : Schema where
  table := table
  columns := [key, label]
  table_eq := by decide
  nodup := by decide

/-- A row that has its key. -/
def keyed : Instance := ((Instance.new schema).put 0 (.text "m")).put 1 (.text "c")

/-- A row that is written with the default of the key. -/
def unkeyed : Instance := (Instance.new schema).put 1 (.text "a")

/-- The function gives the key of the other row where rows are written, and this where keys are
compared. -/
def evaluations (compared : String) : Batch.Evaluations :=
  ⟨fun _ _ _ => .text compared, fun _ _ _ => .text "m"⟩

/-- The two rows, one behind the other. -/
def batch (compared : String) : List Batch.Entry :=
  Batch.entries (evaluations compared) [keyed, unkeyed]

/-- The value that a server reads at a place. -/
def sentValue : Symbol → Option Value
  | .value v => v
  | .char _ => none

/-- Rows of two cells each. -/
def pairs : List Value → List (List InsertCell)
  | v :: w :: rest => [.bound "" v, .bound "" w] :: pairs rest
  | _ => []

/-- A server that runs the insertion of the values that it reads as the text says. -/
def answer (p : Positional) (content : Content) : Except Error (List Record) × Content :=
  content.run schema p.sql (fun _ _ _ => .null) (pairs (p.read.filterMap sentValue))

theorem filterMap_sentValue (t : Template) :
    t.symbols.filterMap sentValue = t.bindings.map Prod.snd := by
  rw [Template.symbols, Template.bindings, List.filterMap_map, List.map_filterMap]
  refine List.filterMap_congr ?_
  rintro (c | ⟨name, v⟩) - <;> rfl

/-- The names of values do not matter to the server. -/
theorem serves {rows : List Batch.Entry} {cells : List (List InsertCell)}
    (hcells : (Batch.sent schema .upsert rows).mapM (Insert.cells schema) = .ok cells)
    (hpairs : (pairs ((cells.flatten.flatMap InsertCell.bindings).map Prod.snd)).map
        (storedRow fun _ _ => .null) = cells.map (storedRow fun _ _ => .null)) :
    Serves answer schema (fun _ _ => .null) rows := by
  intro cells' p content hcells' hread
  cases hcells.symm.trans hcells'
  unfold answer Content.run
  rw [hread, filterMap_sentValue, Insert.bindings_insertTemplate]
  simp only [mapIdx_storedRow, hpairs]

theorem made {i : Instance} (hi : i ∈ [keyed, unkeyed]) : i.Made schema := by
  rcases List.mem_pair.1 hi with rfl | rfl
  · have hid : ((Instance.new schema).put 0 (.text "m")).Made schema :=
      @Instance.Made.set schema _ _ "id" (.text "m") .new rfl
    exact @Instance.Made.set schema _ keyed "name" (.text "c") hid rfl
  · exact @Instance.Made.set schema _ unkeyed "name" (.text "a") .new rfl

theorem isInert {compared : String} {row : Batch.Entry} (hrow : row ∈ batch compared) :
    row.IsInert schema := by
  have hrandom : ∀ k : Fin schema.columns.length,
      (Batch.written (schema.get k) row.bound (row.row.slot k)).bind Value.random? = none := by
    rcases List.mem_pair.1 hrow with rfl | rfl <;> exact Fin.forall_fin_two.2 ⟨rfl, rfl⟩
  rintro k v hv sql rfl
  have hnone := hrandom k
  rw [hv] at hnone
  exact (nomatch hnone)

theorem serves_single {compared : String} {row : Batch.Entry} (hrow : row ∈ batch compared) :
    Serves answer schema (fun _ _ => .null) [row.single] := by
  rcases List.mem_pair.1 hrow with rfl | rfl
  · exact serves rfl rfl
  · exact serves rfl rfl

/-- One after the other the rows can be upserted, and the second one stays. -/
theorem upsertEach_batch (compared : String) :
    upsertEach schema (.ofServer answer) (batch compared) [] =
      (.ok (), [[.text "m", .text "a"]]) := by
  have hupsertable : ∀ row ∈ batch compared,
      row.Upsertable schema answer fun _ _ => .null := fun row hrow =>
    ⟨Batch.forall_mem_entries (fun _ => made) row hrow, isInert hrow, serves_single hrow⟩
  have hstored : List.Forall₂ (StoredAs schema fun _ _ => .null) (batch compared)
      [[.text "m", .text "c"], [.text "m", .text "a"]] :=
    .cons ⟨_, rfl, rfl⟩ (.cons ⟨_, rfl, rfl⟩ .nil)
  have haccepted : ∀ r ∈ ([[.text "m", .text "c"], [.text "m", .text "a"]] : List Record),
      Accepted schema r := by
    intro r hr
    rcases List.mem_pair.1 hr with rfl | rfl <;> exact ⟨by decide, _, rfl⟩
  exact upsertEach_of_storedAs rfl hupsertable hstored haccepted []

/-- If the function gives another key where keys are compared, the statement is refused, since both
rows are sent with one key. If it gives the same key it succeeds. -/
theorem upsert_counted :
    ((∀ row ∈ batch "k", (Batch.keyOf schema row).isSome) ∧
      ¬∃ result after, Insert.execute ⟨schema, [keyed, unkeyed], .upsert, evaluations "k"⟩
        (.ofServer answer) [] = (.ok result, after)) ∧
    ∃ n b after, Insert.execute ⟨schema, [keyed, unkeyed], .upsert, evaluations "m"⟩
        (.ofServer answer) [] = (.ok (n, b), after) ∧
      after.Perm [[.text "m", .text "a"]] ∧ Batch.CountsKeys schema (batch "m") n := by
  have hmade : ∀ i ∈ [keyed, unkeyed], i.Made schema := fun _ => made
  constructor
  · have hserves : Serves answer schema (fun _ _ => .null) (batch "k") := serves rfl rfl
    refine ⟨by decide, fun hexecute => ?_⟩
    have hapart := ((upsert_iff_of_upsertEach rfl hmade).2 _ _ _ _ (fun _ => isInert) hserves
      (fun _ => serves_single) (upsertEach_batch "k")).1.1 hexecute
    obtain ⟨hdistinct, -⟩ := List.pairwise_cons.1 hapart
    have hkeys := hdistinct _ (List.mem_singleton.2 rfl) [.text "m", .text "c"]
      [.text "m", .text "a"] ⟨_, rfl, rfl⟩ ⟨_, rfl, rfl⟩
    exact absurd hkeys (by decide)
  · have hserves : Serves answer schema (fun _ _ => .null) (batch "m") := serves rfl rfl
    refine ((upsert_iff_of_upsertEach rfl hmade).2 _ _ _ _ (fun _ => isInert) hserves
      (fun _ => serves_single) (upsertEach_batch "m")).2 fun row hrow => ?_
    rcases List.mem_pair.1 hrow with rfl | rfl
    · exact ⟨by decide, fun k _ => rfl⟩
    · exact ⟨by decide, fun k _ => rfl⟩

end Counted

end TypedTable
