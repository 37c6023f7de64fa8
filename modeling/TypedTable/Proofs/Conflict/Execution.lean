import TypedTable.Proofs.Conflict.Clause
import TypedTable.Proofs.Rendering.Insertion
import TypedTable.Proofs.Server
/-!
# A server that goes by the text of an insertion

`Content.write` runs an insertion under a policy. A server is not told a policy: it gets a text, and
reads there what becomes of rows whose key is in the table and which columns come back
(`Content.run`). What it reads need not be about all columns: a column that nothing is assigned to
keeps its value. A text that it cannot read, or that is not about the columns of the table and its
key, is refused.

For the text of a built insertion the two are the same (`Content.run_eq_write`): behind the rows the
text with numbers is the text of the statement (`Statement.exists_toList_positional`), and every
column gets the value of the new row.
-/

namespace TypedTable

/-! ### The server -/

namespace Schema

/-- The value of a column in a row. -/
def field (s : Schema) (r : Record) (name : Ident) : Value :=
  ((s.index? name.text).bind fun k => r[(k : Nat)]?).getD .null

/-- The values of columns in a row. -/
def project (s : Schema) (names : List Ident) (r : Record) : Record := names.map (s.field r)

/-- A row in which columns got the values that another row has in columns. -/
def updated (s : Schema) (assignments : List (Ident × Ident)) (r old : Record) : Record :=
  s.columns.map fun c =>
    match assignments.lookup c.ident with
    | some source => s.field r source
    | none => s.field old c.ident

end Schema

/-- Whether columns of a table are assigned, none of them twice, and no column of the key gets the
value of another one. -/
def ConflictAction.fits (s : Schema) : ConflictAction → Bool
  | skip => true
  | update assignments =>
    decide (assignments.map Prod.fst).Nodup && assignments.all fun a =>
      (s.columns.map Column.ident).contains a.1 && (s.columns.map Column.ident).contains a.2 &&
        (a.1 = a.2 || !(s.primaryKey.map Column.ident).contains a.1)

/-- Whether an ending is about a table and its key. Rows that are skipped can be found by any key. -/
def Insert.Ending.fits (s : Schema) (e : Ending) : Bool :=
  (decide (e.target.Perm (s.primaryKey.map Column.ident)) ||
      decide (e.target = [] ∧ e.action = .skip)) &&
    e.action.fits s && e.returning.all (s.columns.map Column.ident).contains

namespace Content

variable (s : Schema)

/-- Changes the row that has the key of another one, or else adds that one. Gives the row that is
there now. -/
def merge (assignments : List (Ident × Ident)) (content : Content) (r : Record) :
    Record × Content :=
  match content.find? fun old => Batch.sameKey (s.keyOf old) (s.keyOf r) with
  | none => (r, content ++ [r])
  | some old =>
    (s.updated assignments r old, content.map fun old =>
      if Batch.sameKey (s.keyOf old) (s.keyOf r) then s.updated assignments r old else old)

/-- Merges rows one after the other, if no key is touched twice and no row is left with a null in a
column that takes none. Gives the rows that are there now. -/
def mergeAll (assignments : List (Ident × Ident)) (content touched : Content) :
    List Record → Option (List Record × Content)
  | [] => some ([], content)
  | r :: rest =>
    let (row, after) := content.merge s assignments r
    if Content.hasKey s touched (s.keyOf r) || !s.admits row then none
    else (mergeAll assignments after (r :: touched) rest).map fun (rows, after) =>
      (row :: rows, after)

/-- Runs an insertion of rows as its text says: the rows that come back, and the table
afterwards. -/
def run (sql : String) (draw : Nat → Nat → InsertCell → Value) (rows : List (List InsertCell))
    (content : Content) : Except Error (List Record) × Content :=
  match Insert.Ending.ofText? sql with
  | none => (.error refusal, content)
  | some e =>
    let records := rows.mapIdx fun n cells => storedRow (draw n) cells
    if e.fits s && records.all s.admits then
      match e.action with
      | .skip =>
        let (written, after) := content.addNew s records
        (.ok (written.map (s.project e.returning)), after)
      | .update assignments =>
        match content.mergeAll s assignments [] records with
        | some (written, after) => (.ok (written.map (s.project e.returning)), after)
        | none => (.error refusal, content)
    else (.error refusal, content)

end Content

/-! ### The text that is sent -/

namespace ScanState

/-- Whether the characters read so far are complete, up to a quotation that may be open. -/
def IsSettled : ScanState → Prop
  | plain | quoted _ => True
  | colon | name _ => False

theorem start_of_ne_colon {c : Char} (h : c ≠ ':') :
    (start c).1.IsSettled ∧ (start c).2 = [.verbatim c] := by
  unfold start
  rw [if_neg h]
  split <;> exact ⟨trivial, rfl⟩

/-- Text without colons stands for itself, in quotations and outside. -/
theorem pieces_of_isSettled {s : ScanState} {cs : List Char} (hs : s.IsSettled) (h : ':' ∉ cs) :
    s.pieces cs = verbatim cs := by
  induction cs generalizing s with
  | nil => cases s <;> first | rfl | exact hs.elim
  | cons c cs ih =>
    obtain ⟨hc, hcs⟩ : ':' ≠ c ∧ ':' ∉ cs := by simpa using h
    have hstep : (s.step c).1.IsSettled ∧ (s.step c).2 = [.verbatim c] := by
      cases s with
      | plain => exact start_of_ne_colon hc.symm
      | quoted mark =>
        refine ⟨?_, rfl⟩
        rw [step]
        split <;> trivial
      | colon | name => exact hs.elim
    rw [pieces, hstep.2, ih hstep.1 hcs]
    rfl

/-- Text without colons that no name goes on with stands for itself. -/
theorem pieces_of_endsName (s : ScanState) {cs : List Char} (h : ':' ∉ cs) (hends : EndsName cs) :
    s.pieces cs = s.finish ++ verbatim cs := by
  cases cs with
  | nil => cases s <;> rfl
  | cons c cs =>
    obtain ⟨hc, hcs⟩ : ':' ≠ c ∧ ':' ∉ cs := by simpa using h
    obtain ⟨hsettled, hpieces⟩ := start_of_ne_colon hc.symm
    have hname : ¬isNameCharacter c = true := by rw [endsName_cons.1 hends]; decide
    have hrest := pieces_of_isSettled hsettled hcs
    cases s with
    | plain => exact pieces_of_isSettled trivial h
    | quoted mark => exact pieces_of_isSettled trivial h
    | colon =>
      rw [pieces, step, if_neg hc.symm, if_neg hname, hrest, hpieces]
      rfl
    | name characters =>
      rw [pieces, step, if_neg hname, hrest, hpieces]
      rfl

/-- Such text stands for itself whatever stands in front of it. -/
theorem exists_pieces_append (s : ScanState) (before : List Char) {cs : List Char} (h : ':' ∉ cs)
    (hends : EndsName cs) : ∃ ps, s.pieces (before ++ cs) = ps ++ verbatim cs := by
  induction before generalizing s with
  | nil => exact ⟨s.finish, s.pieces_of_endsName h hends⟩
  | cons c before ih =>
    obtain ⟨ps, hps⟩ := ih (s.step c).1
    exact ⟨(s.step c).2 ++ ps, by rw [List.cons_append, pieces, hps, List.append_assoc]⟩

end ScanState

/-- The end of a statement is sent as it is if it has no colons and no name goes on with it. -/
theorem Statement.exists_toList_positional {statement : Statement} {front back : String}
    (hsql : statement.sql = front ++ back) (hcolon : ':' ∉ back.toList)
    (hends : EndsName back.toList) {p : Positional} (hp : statement.positional = .ok p) :
    ∃ before, p.sql.toList = before ++ back.toList := by
  obtain ⟨ps, hps⟩ := ScanState.plain.exists_pieces_append front.toList hcolon hends
  have hpieces : TypedTable.pieces statement.sql = ps ++ verbatim back.toList := by
    rw [TypedTable.pieces, hsql, String.toList_append, hps]
  obtain ⟨values, -, hp⟩ := bind_eq_ok.1 hp
  cases hp
  refine ⟨ps.flatMap (render ((TypedTable.pieces statement.sql).foldl numbered [])), ?_⟩
  rw [String.toList_ofList, hpieces, List.flatMap_append, flatMap_render_verbatim]

/-- What an insertion says behind its rows is read from the text that is sent. -/
theorem Insert.ofText?_positional {s : Schema} {policy : ConflictPolicy}
    {rows : List (List InsertCell)} {p : Positional} (hkey : s.hasPrimaryKey = true)
    (hp : (statement s policy rows).positional = .ok p) :
    Ending.ofText? p.sql = some (ending s policy) := by
  have htext : (ending s policy).text = _ := text_ending fun _ => hkey
  have hsql : (statement s policy rows).sql = "INSERT INTO " ++ s.table.sql ++ " (" ++
      s.columnList ++ ") VALUES " ++ Text.commas (rows.map tuple) ++ (ending s policy).text := by
    rw [htext, ← String.append_assoc, ← String.append_assoc]
    rfl
  obtain ⟨before, hbefore⟩ := Statement.exists_toList_positional hsql
    (ending s policy).colon_not_mem_text (ending s policy).endsName_text hp
  exact Ending.ofText?_eq (isWritable_ending (Schema.columns_ne_nil hkey) policy) hbefore

/-! ### What the server does -/

variable {s : Schema}

/-- What an insertion into a table says behind its rows is about the table. -/
theorem Insert.fits_ending (policy : ConflictPolicy) : (ending s policy).fits s = true := by
  have haction : (ending s policy).action.fits s = true := by
    cases policy with
    | doNothing => rfl
    | upsert =>
      have hnames : ((s.columns.map fun c => (c.ident, c.ident)).map Prod.fst).Nodup := by
        rw [List.map_map]
        exact s.nodup
      simp only [ending, ConflictAction.fits, hnames, decide_true, Bool.true_and, List.all_eq_true,
        List.mem_map]
      rintro a ⟨c, hc, rfl⟩
      simp [List.mem_map_of_mem hc]
  have hreturning : (ending s policy).returning.all (s.columns.map Column.ident).contains = true :=
    List.all_eq_true.2 fun name hname => List.contains_iff_mem.2 hname
  rw [Ending.fits, haction, hreturning]
  simp [ending]

/-- The values of all columns are the row. -/
theorem Schema.project_columns {r : Record} (hr : r.length = s.columns.length) :
    s.project (s.columns.map Column.ident) r = r := by
  refine List.ext_getElem (by simp [project, hr]) fun k hk hk' => ?_
  have hindex := s.index?_get ⟨k, hr ▸ hk'⟩
  have hfield : s.field r (s.get ⟨k, hr ▸ hk'⟩).ident = r[k] := by
    rw [field, hindex, Option.bind_some, List.getElem?_eq_getElem hk', Option.getD_some]
  simp only [project, List.getElem_map]
  exact hfield

/-- If every column gets the value of another row, the row is that one. -/
theorem Schema.updated_columns {r : Record} (hr : r.length = s.columns.length) (old : Record) :
    s.updated (s.columns.map fun c => (c.ident, c.ident)) r old = r := by
  have hlookup : ∀ c ∈ s.columns,
      (s.columns.map fun c => (c.ident, c.ident)).lookup c.ident = some c.ident := by
    intro c hc
    have hgraph := List.lookup_graph id (List.mem_map_of_mem (f := Column.ident) hc)
    rwa [List.map_map] at hgraph
  refine Eq.trans (List.map_congr_left fun c hc => ?_)
    (List.map_map.symm.trans (s.project_columns hr))
  rw [hlookup c hc]
  rfl

namespace Content

/-- Merging all columns of a row puts the row. -/
theorem merge_columns {r : Record} (hr : r.length = s.columns.length) (content : Content) :
    content.merge s (s.columns.map fun c => (c.ident, c.ident)) r = (r, content.put s r) := by
  unfold merge put hasKey
  split
  · next hnone =>
    have hany : (content.any fun old => Batch.sameKey (s.keyOf old) (s.keyOf r)) = false := by
      simpa using hnone
    rw [hany]
    rfl
  · next old hsome =>
    have hany : (content.any fun old => Batch.sameKey (s.keyOf old) (s.keyOf r)) = true :=
      List.any_eq_true.2 ⟨old, List.mem_of_find?_eq_some hsome,
        @List.find?_some _ (fun old => Batch.sameKey (s.keyOf old) (s.keyOf r)) _ _ hsome⟩
    simp only [hany, s.updated_columns hr, if_true]

theorem mergeAll_columns {rows : List Record}
    (hrows : ∀ r ∈ rows, r.length = s.columns.length ∧ s.admits r = true)
    (content touched : Content) :
    content.mergeAll s (s.columns.map fun c => (c.ident, c.ident)) touched rows =
      (content.putAll s touched rows).map (rows, ·) := by
  induction rows generalizing content touched with
  | nil => rfl
  | cons r rest ih =>
    obtain ⟨⟨hlength, hadmits⟩, hrest⟩ := List.forall_mem_cons.1 hrows
    rw [mergeAll, merge_columns hlength, putAll]
    dsimp only
    rw [hadmits, Bool.not_true, Bool.or_false, ih hrest]
    split
    · rfl
    · cases putAll s (content.put s r) (r :: touched) rest <;> rfl

/-- A server that goes by the text runs a built insertion under its policy, if there is a cell for
every column. -/
theorem run_eq_write {policy : ConflictPolicy} {sql : String}
    (hsql : Insert.Ending.ofText? sql = some (Insert.ending s policy))
    {rows : List (List InsertCell)} (hrows : ∀ cells ∈ rows, cells.length = s.columns.length)
    (draw : Nat → Nat → InsertCell → Value) (content : Content) :
    content.run s sql draw rows = content.write s policy draw rows := by
  have hlength : ∀ r ∈ rows.mapIdx fun n cells => storedRow (draw n) cells,
      r.length = s.columns.length := by
    intro r hr
    obtain ⟨n, hn, rfl⟩ := List.mem_mapIdx.1 hr
    rw [storedRow, List.length_mapIdx]
    exact hrows _ (List.getElem_mem hn)
  have hproject : ∀ written : List Record, (∀ r ∈ written, r.length = s.columns.length) →
      written.map (s.project (s.columns.map Column.ident)) = written := fun written hwritten =>
    (List.map_congr_left fun r hr => s.project_columns (hwritten r hr)).trans (List.map_id _)
  unfold run write
  rw [hsql]
  dsimp only
  rw [Insert.fits_ending, Bool.true_and]
  split
  · next hadmits =>
    cases policy with
    | doNothing =>
      have hsub := (content.addNew_spec (s := s)
        (rows.mapIdx fun n cells => storedRow (draw n) cells)).1
      simp only [Insert.ending, hproject _ fun r hr => hlength r (hsub.subset hr)]
    | upsert =>
      have hmerge := mergeAll_columns
        (fun r hr => ⟨hlength r hr, List.all_eq_true.1 hadmits r hr⟩) content []
      simp only [Insert.ending, hmerge]
      cases putAll s content [] (rows.mapIdx fun n cells => storedRow (draw n) cells) with
      | none => rfl
      | some after => simp only [Option.map_some, hproject _ hlength]
  · rfl

end Content

end TypedTable
