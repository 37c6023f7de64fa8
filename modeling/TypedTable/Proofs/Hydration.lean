import TypedTable.Proofs.Atomicity
import TypedTable.Proofs.Literals.Build
/-!
# Rows of a selection

The places of a selection are those of the columns that were asked for, in this order, and the items
between `SELECT` and `FROM` are the names of these columns (`selectList_statement`). So the cells of
a row that comes back belong to the columns by their places: `Schema.Admits` says when a row can be
made of a record, `Schema.Refuses` why not, and `Instance.Holds` what the row then holds.

`Select.hydrates` puts this together for whatever a client answers with, and says which columns
cannot be asked for.
-/

namespace TypedTable

/-! ### The select list -/

/-- The words up to `FROM`, without commas. -/
def wordsToFrom (words : List (List Char)) : List String :=
  (words.takeWhile (· ≠ "FROM".toList)).map fun word => String.ofList (word.filter (· ≠ ','))

/-- The items of the list behind the first word of a text, up to `FROM`. -/
def selectList (sql : String) : List String := wordsToFrom (sql.toList.splitOn ' ').tail

/-- Whether a text is a single word in quotes without a comma. -/
structure IsItem (item : String) : Prop where
  not_mem : ∀ c ∈ item.toList, c ≠ ' ' ∧ c ≠ ','
  quote_mem : '"' ∈ item.toList

theorem splitOn_append_space {word : List Char} (h : ' ' ∉ word) (rest : List Char) :
    (word ++ ' ' :: rest).splitOn ' ' = word :: rest.splitOn ' ' := by
  unfold List.splitOn
  refine List.splitOnP_append_cons_of_forall_mem (fun c hc => ?_) ' ' (by decide) rest
  exact beq_eq_false_iff_ne.2 fun heq => h (heq ▸ hc)

theorem isItem_column (c : ColumnName) : IsItem c.sql := by
  have hident (i : Ident) : ∀ c ∈ i.sql.toList, c ≠ ' ' ∧ c ≠ ',' := by
    intro c hc
    have hmem : c = '"' ∨ c ∈ i.text.toList := by
      simp only [Ident.sql, String.toList_append, List.mem_append] at hc
      rcases hc with (hc | hc) | hc
      · exact .inl (by simpa using hc)
      · exact .inr hc
      · exact .inl (by simpa using hc)
    rcases hmem with rfl | hc
    · decide
    · have hlegal := forall_mem_ident i c hc
      refine ⟨?_, ?_⟩
      · rintro rfl
        exact absurd hlegal (by decide)
      · rintro rfl
        exact absurd hlegal (by decide)
  constructor
  · intro d hd
    simp only [ColumnName.sql, TableName.sql, String.toList_append, List.mem_append] at hd
    rcases hd with ((((hd | hd) | hd) | hd) | hd)
    · exact hident _ d hd
    · obtain rfl : d = '.' := by simpa using hd
      decide
    · exact hident _ d hd
    · obtain rfl : d = '.' := by simpa using hd
      decide
    · exact hident _ d hd
  · simp [ColumnName.sql, Ident.sql]

theorem wordsToFrom_cons {item : String} (h : IsItem item) {word : List Char}
    (hword : word = item.toList ∨ word = item.toList ++ [',']) (words : List (List Char)) :
    wordsToFrom (word :: words) = item :: wordsToFrom words := by
  have hquote : '"' ∈ word := by
    rcases hword with rfl | rfl
    · exact h.quote_mem
    · exact List.mem_append_left _ h.quote_mem
  have hfrom : word ≠ "FROM".toList := by
    rintro rfl
    exact absurd hquote (by decide)
  have hitem : item.toList.filter (· ≠ ',') = item.toList :=
    List.filter_eq_self.2 fun c hc => decide_eq_true (h.not_mem c hc).2
  have hword' : word.filter (· ≠ ',') = item.toList := by
    rcases hword with rfl | rfl
    · exact hitem
    · rw [List.filter_append, hitem]
      exact List.append_nil _
  unfold wordsToFrom
  rw [List.takeWhile_cons, if_pos (decide_eq_true hfrom), List.map_cons, hword',
    String.ofList_toList]

/-- The words of a list of items are the items, with commas behind all but the last. -/
theorem wordsToFrom_commas {item : String} {items : List String}
    (h : ∀ i ∈ item :: items, IsItem i) (rest : List Char) :
    wordsToFrom (((Text.commas (item :: items)).toList ++
      ' ' :: ("FROM".toList ++ ' ' :: rest)).splitOn ' ') = item :: items := by
  obtain ⟨hitem, hitems⟩ := List.forall_mem_cons.1 h
  have hspace : ' ' ∉ item.toList := fun hmem => (hitem.not_mem ' ' hmem).1 rfl
  induction items generalizing item with
  | nil =>
    show wordsToFrom ((item.toList ++ _).splitOn ' ') = _
    rw [splitOn_append_space hspace, splitOn_append_space (by decide),
      wordsToFrom_cons hitem (.inl rfl)]
    rfl
  | cons next items ih =>
    have htext : (Text.commas (item :: next :: items)).toList =
        (item.toList ++ [',']) ++ ' ' :: (Text.commas (next :: items)).toList := by
      show (item ++ ", " ++ Text.commas (next :: items)).toList = _
      simp
    have hspace' : ' ' ∉ item.toList ++ [','] := by
      rw [List.mem_append]
      exact fun hmem => hmem.elim hspace (by decide)
    obtain ⟨hnext, hrest⟩ := List.forall_mem_cons.1 hitems
    rw [htext, List.append_assoc, List.cons_append, splitOn_append_space hspace',
      wordsToFrom_cons hitem (.inr rfl),
      ih hitems hnext hrest fun hmem => (hnext.not_mem ' ' hmem).1 rfl]

namespace Select

/-- The items of the list of a statement are the names of the columns at the places. -/
theorem selectList_statement {s : Schema} {positions : List (Fin s.columns.length)}
    (h : positions ≠ []) (tail : Tail) :
    selectList (statement s positions tail).sql = positions.map fun k => (s.get k).sql := by
  obtain ⟨k, others, rfl⟩ := List.exists_cons_of_ne_nil h
  have htext : (statement s (k :: others) tail).sql.toList = "SELECT".toList ++
      ' ' :: ((Text.commas ((k :: others).map fun k => (s.get k).sql)).toList ++
        ' ' :: ("FROM".toList ++ ' ' :: (s.table.sql ++ tail.sql).toList)) := by
    simp [statement]
  unfold selectList
  rw [htext, splitOn_append_space (by decide), List.tail_cons]
  have hitems : ∀ item ∈ (k :: others).map fun k => (s.get k).sql, IsItem item := by
    intro item hitem
    obtain ⟨l, -, rfl⟩ := List.mem_map.1 hitem
    exact isItem_column _
  exact wordsToFrom_commas hitems _

/-- A statement for columns is sent. -/
theorem isEmpty_statement {s : Schema} {positions : List (Fin s.columns.length)}
    (h : positions ≠ []) (tail : Tail) : (statement s positions tail).isEmpty = false := by
  obtain ⟨k, others, rfl⟩ := List.exists_cons_of_ne_nil h
  have htext : ∃ rest, (statement s (k :: others) tail).sql.toList = 'S' :: rest := by
    have hselect : "SELECT ".toList = 'S' :: "ELECT ".toList := by simp
    simp only [statement, List.isEmpty_cons, Bool.false_eq_true, if_false, String.append_assoc,
      String.toList_append]
    rw [hselect, List.cons_append]
    exact ⟨_, rfl⟩
  obtain ⟨rest, hrest⟩ := htext
  exact Statement.isEmpty_eq_false hrest (by decide)

end Select

/-! ### Columns that are asked for -/

/-- Whether the table has a column of this table and name. -/
def Schema.Declares (s : Schema) (c : Column) : Prop :=
  ∃ d ∈ s.columns, d.table = c.table ∧ d.ident = c.ident

instance (s : Schema) (c : Column) : Decidable (s.Declares c) :=
  inferInstanceAs (Decidable (∃ d ∈ s.columns, d.table = c.table ∧ d.ident = c.ident))

namespace Select

variable {s : Schema} {c : Column}

theorem declares_iff_name : s.Declares c ↔ ∃ k, (s.get k).name = c.name := by
  have hname (d : Column) : d.table = c.table ∧ d.ident = c.ident ↔ d.name = c.name := by
    constructor
    · rintro ⟨htable, hident⟩
      cases hd : d.name
      cases hc : c.name
      simp only [Column.table, Column.ident, hd, hc] at htable hident
      rw [htable, hident]
    · intro h
      rw [Column.table, Column.table, Column.ident, Column.ident, h]
      exact ⟨rfl, rfl⟩
  unfold Schema.Declares
  simp only [hname]
  constructor
  · rintro ⟨d, hd, hdc⟩
    obtain ⟨k, rfl⟩ := List.get_of_mem hd
    exact ⟨k, hdc⟩
  · rintro ⟨k, hk⟩
    exact ⟨s.get k, List.get_mem s.columns k, hk⟩

/-- A column has a place exactly if the table declares it. -/
theorem exists_position_iff : (∃ k, position s c = .ok k) ↔ s.Declares c := by
  rw [declares_iff_name]
  constructor
  · rintro ⟨k, hk⟩
    exact ⟨k, position_eq_ok hk⟩
  · rintro ⟨k, hk⟩
    unfold position
    cases hfind : s.position? c.name with
    | some l => exact ⟨l, rfl⟩
    | none =>
      have hnone := List.findFinIdx?_eq_none_iff.1 hfind (s.get k) (List.get_mem s.columns k)
      exact absurd (decide_eq_true hk) hnone

theorem position_of_not_declares (h : ¬s.Declares c) :
    position s c = .error (.selectOutside c.name s.table) := by
  have hnone (k) : position s c ≠ .ok k := fun hk => h (exists_position_iff.1 ⟨k, hk⟩)
  unfold position at hnone ⊢
  cases hfind : s.position? c.name with
  | none => rfl
  | some l =>
    rw [hfind] at hnone
    exact absurd rfl (hnone l)

/-- There are places for all columns that are asked for exactly if the table declares them. -/
theorem exists_positions_iff {q : Select} :
    (∃ positions, q.positions = .ok positions) ↔ ∀ c ∈ q.columns, q.schema.Declares c := by
  simp only [← exists_position_iff]
  unfold positions
  split
  · next hnil =>
    refine iff_of_true ⟨_, rfl⟩ fun c hc => ?_
    rw [hnil] at hc
    exact absurd hc List.not_mem_nil
  · constructor
    · rintro ⟨positions, h⟩ c hc
      obtain ⟨k, -, hk⟩ := exists_of_mem_right (mapM_eq_ok_iff.1 h).flip hc
      exact ⟨k, hk⟩
    · exact exists_mapM_eq_ok

/-- If there are no places for the columns, the first one that is not declared is reported. -/
theorem positions_eq_error_iff {q : Select} {e : Error} :
    q.positions = .error e ↔ ∃ before c after, q.columns = before ++ c :: after ∧
      (∀ d ∈ before, q.schema.Declares d) ∧ ¬q.schema.Declares c ∧
      e = .selectOutside c.name q.schema.table := by
  have hpositions : q.positions = .error e ↔ q.columns.mapM (position q.schema) = .error e := by
    unfold positions
    split
    · next hnil =>
      rw [hnil]
      exact iff_of_false (fun h => (nomatch h)) fun h => (nomatch h)
    · exact Iff.rfl
  rw [hpositions, mapM_eq_error_iff]
  simp only [exists_position_iff]
  constructor
  · rintro ⟨before, c, after, hcolumns, hbefore, he⟩
    have hc : ¬q.schema.Declares c := by
      intro hc
      obtain ⟨k, hk⟩ := exists_position_iff.2 hc
      exact (nomatch hk.symm.trans he)
    exact ⟨before, c, after, hcolumns, hbefore, hc,
      Except.error.inj (he.symm.trans (position_of_not_declares hc))⟩
  · rintro ⟨before, c, after, hcolumns, hbefore, hc, rfl⟩
    exact ⟨before, c, after, hcolumns, hbefore, position_of_not_declares hc⟩

end Select

/-! ### Rows of a record -/

/-- Whether a row can be made of a record: it has a cell for every place, and each of them can be
converted. -/
def Schema.Admits (s : Schema) (positions : List (Fin s.columns.length)) (r : Record) : Prop :=
  r.length = positions.length ∧
    ∀ cell ∈ positions.zip r, ∃ w, (s.get cell.1).convert cell.2 = .ok w

/-- Why no row can be made of a record. -/
inductive Schema.Refuses (s : Schema) (positions : List (Fin s.columns.length)) (r : Record) :
    Error → Prop
  /-- It has another number of cells than there are places. -/
  | width (h : r.length ≠ positions.length) :
      Refuses s positions r (.rowLength s.table positions.length r.length)
  /-- There is a first cell that cannot be converted. -/
  | cell {before after : List (Fin s.columns.length × Value)} {k : Fin s.columns.length} {v : Value}
      {e : Error} (hlength : r.length = positions.length)
      (hcells : positions.zip r = before ++ (k, v) :: after)
      (hbefore : ∀ cell ∈ before, ∃ w, (s.get cell.1).convert cell.2 = .ok w)
      (he : (s.get k).convert v = .error e) : Refuses s positions r e

namespace Instance

/-- Whether a row holds a record with a cell for every place: the last cell of every column that has
one, in the form that the column stores, and nothing else. -/
structure Holds (s : Schema) (positions : List (Fin s.columns.length)) (r : Record)
    (i : Instance) : Prop where
  schema_eq : i.schema = s
  length_eq : r.length = positions.length
  slot_last : ∀ before k v after, positions.zip r = before ++ (k, v) :: after →
    (∀ u, (k, u) ∉ after) → ∃ w, (s.get k).convert v = .ok w ∧ i.slot k = some w
  slot_none : ∀ k : Fin s.columns.length, k ∉ positions → i.slot k = none

variable {s : Schema} {positions : List (Fin s.columns.length)} {r : Record}

/-- Cells are put into a row as they are converted one after the other. -/
theorem foldlM_putCell_eq_error_iff {cells : List (Fin s.columns.length × Value)} {e : Error}
    (i : Instance) : cells.foldlM (putCell s) i = .error e ↔
      cells.mapM (fun cell => (s.get cell.1).convert cell.2) = .error e := by
  induction cells generalizing i with
  | nil => exact iff_of_false (fun h => (nomatch h)) fun h => (nomatch h)
  | cons cell cells ih =>
    rw [List.foldlM_cons, List.mapM_cons, putCell]
    cases (s.get cell.1).convert cell.2 with
    | error e' =>
      constructor
      · intro h
        cases h
        rfl
      · intro h
        cases h
        rfl
    | ok w =>
      refine (ih (i.put cell.1 w)).trans ?_
      exact (map_eq_error (f := fun ws => w :: ws)).symm

theorem ofRecord_eq_error_iff {e : Error} :
    ofRecord s positions r = .error e ↔ s.Refuses positions r e := by
  unfold ofRecord
  constructor
  · intro h
    split at h
    · next hlength =>
      obtain ⟨before, ⟨k, v⟩, after, hcells, hbefore, he⟩ :=
        mapM_eq_error_iff.1 ((foldlM_putCell_eq_error_iff (new s)).1 h)
      exact .cell hlength hcells hbefore he
    · next hlength =>
      cases h
      exact .width hlength
  · intro h
    cases h with
    | width hlength => exact if_neg hlength
    | cell hlength hcells hbefore he =>
      rw [if_pos hlength]
      exact (foldlM_putCell_eq_error_iff (new s)).2
        (mapM_eq_error_iff.2 ⟨_, _, _, hcells, hbefore, he⟩)

/-- A record that is refused is not admitted. -/
theorem not_admits_of_refuses {e : Error} (h : s.Refuses positions r e) :
    ¬s.Admits positions r := by
  rintro ⟨hlength, hcells⟩
  cases h with
  | width h => exact h hlength
  | @cell before after k v e _ hsplit _ he =>
    have hmem : (k, v) ∈ positions.zip r := by
      rw [hsplit]
      exact List.mem_append_right _ List.mem_cons_self
    obtain ⟨w, hw⟩ := hcells _ hmem
    exact (nomatch hw.symm.trans he)

/-- A row is made of a record exactly if it is admitted. -/
theorem exists_ofRecord_iff_admits :
    (∃ i, ofRecord s positions r = .ok i) ↔ s.Admits positions r := by
  constructor
  · rintro ⟨i, h⟩
    have hlength := (ofRecord_cases h).1
    refine ⟨hlength, ?_⟩
    cases hcells : (positions.zip r).mapM fun cell => (s.get cell.1).convert cell.2 with
    | ok ws =>
      intro cell hcell
      obtain ⟨w, -, hw⟩ := exists_of_mem_right (mapM_eq_ok_iff.1 hcells).flip hcell
      exact ⟨w, hw⟩
    | error e =>
      unfold ofRecord at h
      rw [if_pos hlength] at h
      exact (nomatch h.symm.trans ((foldlM_putCell_eq_error_iff (new s)).2 hcells))
  · rintro ⟨hlength, hcells⟩
    unfold ofRecord
    rw [if_pos hlength]
    exact exists_foldlM_putCell hcells (new s)

/-- A row that is made of a record holds it. -/
theorem holds_of_ofRecord {i : Instance} (h : ofRecord s positions r = .ok i) :
    Holds s positions r i := by
  obtain ⟨hlength, hschema, hslots⟩ := ofRecord_cases h
  refine ⟨hschema, hlength, fun before k v after hcells hafter => ?_, fun k hk => ?_⟩
  · unfold ofRecord at h
    rw [if_pos hlength, hcells] at h
    -- The cells up to this one, this one, and those behind it, which are of other columns.
    obtain ⟨i₁, hbefore, h⟩ := bind_eq_ok.1 (List.foldlM_append (f := putCell s) ▸ h)
    obtain ⟨i₂, hput, hrest⟩ := bind_eq_ok.1 (List.foldlM_cons (f := putCell s) ▸ h)
    obtain ⟨w, hw, rfl⟩ := map_eq_ok.1 hput
    have hschema₁ : i₁.schema = s := (slot_foldlM (show (new s).schema = s from rfl) hbefore).1
    rcases (slot_foldlM (i := i₁.put k w) hschema₁ hrest).2 k with
      ⟨u, -, hmem, -, -⟩ | ⟨-, hslot⟩
    · exact absurd hmem (hafter u)
    · refine ⟨w, hw, hslot.trans ?_⟩
      rw [slot_put i₁ k w (hschema₁ ▸ k.isLt), if_pos rfl]
  · rcases hslots k with ⟨v, -, hmem, -, -⟩ | ⟨-, hslot⟩
    · exact absurd (List.of_mem_zip hmem).1 hk
    · exact hslot

/-- Rows are made of all records exactly if all of them are admitted. -/
theorem exists_mapM_ofRecord_eq_error_iff {rows : List Record} :
    (∃ e, rows.mapM (ofRecord s positions) = .error e) ↔ ∃ r ∈ rows, ¬s.Admits positions r := by
  constructor
  · rintro ⟨e, he⟩
    obtain ⟨before, r, after, rfl, -, hr⟩ := mapM_eq_error_iff.1 he
    exact ⟨r, List.mem_append_right _ List.mem_cons_self,
      not_admits_of_refuses (ofRecord_eq_error_iff.1 hr)⟩
  · rintro ⟨r, hr, hrefused⟩
    cases hall : rows.mapM (ofRecord s positions) with
    | error e => exact ⟨e, rfl⟩
    | ok instances =>
      obtain ⟨i, -, hi⟩ := exists_of_mem_right (mapM_eq_ok_iff.1 hall).flip hr
      exact absurd (exists_ofRecord_iff_admits.1 ⟨i, hi⟩) hrefused

/-- The first record that is not admitted is the one that is reported. -/
theorem exists_refuses_of_mapM_ofRecord {rows : List Record} {e : Error}
    (h : rows.mapM (ofRecord s positions) = .error e) : ∃ before r after,
      rows = before ++ r :: after ∧ (∀ r' ∈ before, s.Admits positions r') ∧
        s.Refuses positions r e := by
  obtain ⟨before, r, after, hsplit, hbefore, hr⟩ := mapM_eq_error_iff.1 h
  exact ⟨before, r, after, hsplit, fun r' hr' => exists_ofRecord_iff_admits.1 (hbefore r' hr'),
    ofRecord_eq_error_iff.1 hr⟩

end Instance

/-! ### Selections that are run -/

namespace Select

variable {q : Select}

theorem build_eq_ok {b : SelectQuery} (h : q.build = .ok b) :
    ∃ positions tail, q.positions = .ok positions ∧ q.clauses.tail q.schema.table = .ok tail ∧
      b = ⟨⟨statement q.schema positions tail, tail.tables q.schema.table⟩, q.schema, positions⟩ := by
  obtain ⟨-, -, h⟩ := bind_eq_ok.1 h
  obtain ⟨positions, hpositions, h⟩ := bind_eq_ok.1 h
  obtain ⟨tail, htail, h⟩ := bind_eq_ok.1 h
  exact ⟨positions, tail, hpositions, htail, (Except.ok.inj h).symm⟩

/-- There is a place for something if the table has a column. -/
theorem positions_ne_nil (hcolumns : q.schema.columns ≠ [])
    {positions : List (Fin q.schema.columns.length)} (h : q.positions = .ok positions) :
    positions ≠ [] := by
  rintro rfl
  have hnames := map_name_positions h
  split at hnames
  · exact hcolumns (List.map_eq_nil_iff.1 hnames.symm)
  · next hne => exact hne (List.map_eq_nil_iff.1 hnames.symm)

/-- Nothing but columns that are not declared keeps a request from being built whose clauses are in
order. -/
theorem build_eq_error_iff {tail : Tail} (hcheck : q.clauses.check = .ok ())
    (htail : q.clauses.tail q.schema.table = .ok tail) {e : Error} :
    q.build = .error e ↔ q.positions = .error e := by
  unfold build
  rw [hcheck, htail]
  exact map_eq_error (f := fun positions => SelectQuery.mk
    ⟨statement q.schema positions tail, tail.tables q.schema.table⟩ q.schema positions)

/-- The rows that come back are made into instances. -/
theorem fetch_of_build {b : SelectQuery} (hcolumns : q.schema.columns ≠ [])
    (hbuild : q.build = .ok b) {σ : Type} {client : Client σ} {state state' : σ}
    {rows : List Record} (hrows : client.query b.statement state = (.ok rows, state')) :
    b.fetch client state = (rows.mapM (Instance.ofRecord b.schema b.positions), state') := by
  obtain ⟨positions, tail, hpositions, -, rfl⟩ := build_eq_ok hbuild
  have hsent := isEmpty_statement (positions_ne_nil hcolumns hpositions) tail
  unfold SelectQuery.fetch Query.records Query.isNoop
  rw [hsent, if_neg (by decide), hrows]
  rfl

/-- The cells of a row that comes back belong to the columns that were asked for by their places: the
list of the statement has the names of these columns in this order, and an instance holds the last
cell of each. If a record does not fit, the first one that does not is reported; otherwise there is
an instance for every record, in order. A column can be asked for exactly if the table declares one
of its table and name, and if not, this is what is reported. -/
theorem hydrates (q : Select) (hcolumns : q.schema.columns ≠ []) :
    (∀ b, q.build = .ok b →
      b.schema = q.schema ∧
      b.positions.map (fun k => (b.schema.get k).name) =
        (if q.columns = [] then q.schema.columns else q.columns).map Column.name ∧
      selectList b.statement.sql = b.positions.map (fun k => (b.schema.get k).name.sql) ∧
      ∀ (σ : Type) (client : Client σ) (state state' : σ) (rows : List Record),
        client.query b.statement state = (.ok rows, state') →
        (b.fetch client state).2 = state' ∧
        ((∃ e, (b.fetch client state).1 = .error e) ↔
          ∃ r ∈ rows, ¬b.schema.Admits b.positions r) ∧
        (∀ e, (b.fetch client state).1 = .error e → ∃ before r after,
          rows = before ++ r :: after ∧ (∀ r' ∈ before, b.schema.Admits b.positions r') ∧
            b.schema.Refuses b.positions r e) ∧
        (∀ instances, (b.fetch client state).1 = .ok instances →
          rows.Forall₂ (Instance.Holds b.schema b.positions) instances)) ∧
    (q.clauses.check = .ok () →
      (∀ before c after, q.columns = before ++ c :: after →
        (∀ d ∈ before, q.schema.Declares d) → ¬q.schema.Declares c →
          q.build = .error (.selectOutside c.name q.schema.table)) ∧
      ∀ tail, q.clauses.tail q.schema.table = .ok tail →
        ((∃ e, q.build = .error e) ↔ ∃ c ∈ q.columns, ¬q.schema.Declares c) ∧
        ∀ e, q.build = .error e → e.kind = .reference) := by
  refine ⟨fun b hbuild => ?_, fun hcheck => ⟨?_, fun tail htail => ⟨?_, fun e he => ?_⟩⟩⟩
  · have hfetch := @fetch_of_build q b hcolumns hbuild
    obtain ⟨positions, tail, hpositions, -, rfl⟩ := build_eq_ok hbuild
    refine ⟨rfl, map_name_positions hpositions,
      selectList_statement (positions_ne_nil hcolumns hpositions) tail, ?_⟩
    intro σ client state state' rows hrows
    rw [hfetch hrows]
    refine ⟨rfl, Instance.exists_mapM_ofRecord_eq_error_iff,
      fun e => Instance.exists_refuses_of_mapM_ofRecord, fun instances h => ?_⟩
    exact (mapM_eq_ok_iff.1 h).imp fun r i hi => Instance.holds_of_ofRecord hi
  · intro before c after hsplit hbefore hc
    have herror := positions_eq_error_iff.2 ⟨before, c, after, hsplit, hbefore, hc, rfl⟩
    unfold build
    rw [hcheck, herror]
    rfl
  · simp only [build_eq_error_iff hcheck htail]
    constructor
    · rintro ⟨e, he⟩
      obtain ⟨before, c, after, hsplit, -, hc, -⟩ := positions_eq_error_iff.1 he
      exact ⟨c, hsplit ▸ List.mem_append_right _ List.mem_cons_self, hc⟩
    · rintro ⟨c, hmem, hc⟩
      cases hpositions : q.positions with
      | error e => exact ⟨e, rfl⟩
      | ok positions => exact absurd (exists_positions_iff.1 ⟨_, hpositions⟩ c hmem) hc
  · obtain ⟨before, c, after, -, -, -, rfl⟩ :=
      positions_eq_error_iff.1 ((build_eq_error_iff hcheck htail).1 he)
    rfl

end Select

/-! ### A column that is asked for twice -/

namespace Roster

/-- The table of the columns. -/
def table : TableName := ⟨⟨"league", by decide, by decide⟩, ⟨"squad", by decide, by decide⟩⟩

def shirt : Column where
  name := ⟨table, ⟨"shirt", by decide, by decide⟩⟩
  type := .integer
  primaryKey := true
  unique := true
  notNull := true
  default := none
  foreignKey := none

def player : Column where
  name := ⟨table, ⟨"player", by decide, by decide⟩⟩
  type := .text
  primaryKey := false
  unique := false
  notNull := false
  default := none
  foreignKey := none

def schema : Schema where
  table := table
  columns := [shirt, player]
  table_eq := by decide
  nodup := by decide

/-- The players by their own declaration, the shirts, and the players by another one. -/
def request : Select where
  schema := schema
  columns := [player, shirt, { player with type := .integer }]

/-- The places of the columns. -/
def places : List (Fin schema.columns.length) := [⟨1, by decide⟩, ⟨0, by decide⟩, ⟨1, by decide⟩]

def query : SelectQuery :=
  ⟨⟨Select.statement schema places ⟨[], [], none, none, none⟩, [table]⟩, schema, places⟩

/-- A row that comes back. -/
def record : Record := [.text "Ann", .integer 4, .text "Anna"]

/-- A client that answers with the row. -/
def client : Client Unit where
  query _ state := (.ok [record], state)

/-- A column of another name. -/
def coach : Column := { player with name := ⟨table, ⟨"coach", by decide, by decide⟩⟩ }

/-- The row holds the last cell of the players, as the table declares them, and a column of another
name cannot be asked for. -/
theorem hydrates_request :
    (∃ i, request.build = .ok query ∧
      selectList query.statement.sql = [player.name.sql, shirt.name.sql, player.name.sql] ∧
      (query.fetch client ()).1 = .ok [i] ∧
      i.slot 1 = some (.text "Anna")) ∧
    Select.build ⟨schema, [player, coach], {}⟩ = .error (.selectOutside coach.name table) := by
  constructor
  · have hbuild : request.build = .ok query := rfl
    obtain ⟨-, -, hlist, hfetch⟩ := (Select.hydrates request (by decide)).1 query hbuild
    obtain ⟨-, herror, -, hok⟩ := hfetch Unit client () () [record] rfl
    have hadmits : schema.Admits places record := by
      refine ⟨rfl, fun cell hcell => ?_⟩
      rcases hcell with _ | ⟨_, _ | ⟨_, _ | ⟨_, hcell⟩⟩⟩
      · exact ⟨.text "Ann", rfl⟩
      · exact ⟨.integer 4, rfl⟩
      · exact ⟨.text "Anna", rfl⟩
      · exact (nomatch hcell)
    cases hresult : (query.fetch client ()).1 with
    | error e =>
      obtain ⟨r, hr, hrefused⟩ := herror.1 ⟨e, hresult⟩
      cases List.mem_singleton.1 hr
      exact absurd hadmits hrefused
    | ok instances =>
      obtain ⟨i, rest, hholds, hrest, rfl⟩ := List.forall₂_cons_left_iff.1 (hok instances hresult)
      cases List.forall₂_nil_left_iff.1 hrest
      refine ⟨i, hbuild, hlist, rfl, ?_⟩
      obtain ⟨w, hw, hslot⟩ := hholds.slot_last _ ⟨1, by decide⟩ (.text "Anna") []
        (show places.zip record = [(⟨1, by decide⟩, .text "Ann"), (⟨0, by decide⟩, .integer 4)] ++ _
          from rfl) fun _ => List.not_mem_nil
      cases hw
      exact hslot
  · have hplayer : schema.Declares player := by decide
    have hcoach : ¬schema.Declares coach := by decide
    refine ((Select.hydrates ⟨schema, [player, coach], {}⟩ (by decide)).2 rfl).1 [player] coach [] rfl
      (fun d hd => ?_) hcoach
    cases List.mem_singleton.1 hd
    exact hplayer

end Roster

end TypedTable
