import TypedTable.Proofs.Access.Insertion
import TypedTable.Display
import TypedTable.Query.Select
/-!
# Places in queries

What is done with many rows at once: rows are shown, come back from a selection, are written and
filled by an insertion, or are drawn by the server. As in `TypedTable.Proofs.Access.Row` all of it is
written over bare rows, which know nothing of how many slots they have.

Each of them goes for places that are there only (`Select.endsAs_build`, `SelectQuery.endsAs_fetch`,
`InsertQuery.run_bare`, `Schema.random_bare`).
-/

namespace TypedTable

open Access

variable {σ : Type}

/-! ### Showing rows -/

/-- The rows as a text table, up to the first that belongs to another declaration. -/
def BareRow.display (s : Schema) (e : Nat → Evaluation) (rows : List BareRow) :
    Access String := do
  let lines ← rows.zipIdx.mapM fun row =>
    if row.1.isOf s then row.1.cells s (e row.2)
    else throw (.displayForeign row.1.schema.table s.table)
  return Grid.text ⟨s.columns.map (·.ident.text), lines.map fun line => line.map Value.display⟩

namespace Schema

/-- The lines of a text table, gone through one after the other; every row goes with an
evaluation. -/
def lines (s : Schema) (rows : List (Instance × Evaluation)) : Except Error (List (List Value)) :=
  rows.mapM fun row =>
    if row.1.isOf s then .ok (row.1.cells row.2)
    else .error (.displayForeign row.1.schema.table s.table)

theorem lines_eq (s : Schema) (rows : List (Instance × Evaluation)) : s.lines rows =
    match (rows.map Prod.fst).find? (!·.isOf s) with
    | some stranger => .error (.displayForeign stranger.schema.table s.table)
    | none => .ok (rows.map fun row => row.1.cells row.2) := by
  induction rows with
  | nil => rfl
  | cons row rows ih =>
    rw [lines, List.mapM_cons, ← lines, ih, List.map_cons, List.find?_cons]
    cases row.1.isOf s with
    | false => rfl
    | true =>
      rw [if_pos rfl, Bool.not_true]
      cases (rows.map Prod.fst).find? (!·.isOf s) <;> rfl

theorem endsAs_lines (s : Schema) (e : Nat → Evaluation) (rows : List Instance) :
    EndsAs ((rows.map Instance.bare).zipIdx.mapM fun row =>
        if row.1.isOf s then row.1.cells s (e row.2)
        else throw (.displayForeign row.1.schema.table s.table)) id
      (s.lines (rows.zipIdx.map (Prod.map id e))) := by
  have hlines : s.lines (rows.zipIdx.map (Prod.map id e)) = rows.zipIdx.mapM fun row =>
      if row.1.isOf s then .ok (row.1.cells (e row.2))
      else .error (.displayForeign row.1.schema.table s.table) := List.mapM_map
  rw [List.zipIdx_map, hlines, ← List.map_id_fun]
  refine .mapM fun row _ => ?_
  show EndsAs (if row.1.isOf s then row.1.bare.cells s (e row.2) else throw _) id
    (if row.1.isOf s then .ok (row.1.cells (e row.2)) else .error _)
  split
  · next hfits => exact Instance.endsAs_cells hfits (e row.2)
  · rfl

theorem endsAs_display (s : Schema) (e : Nat → Evaluation) (rows : List Instance) :
    EndsAs (BareRow.display s e (rows.map Instance.bare)) id (s.display e rows) := by
  have hfst : (rows.zipIdx.map (Prod.map id e)).map Prod.fst = rows := by
    rw [List.map_map]
    exact List.zipIdx_map_fst 0 rows
  have hdisplay : s.display e rows = s.lines (rows.zipIdx.map (Prod.map id e)) >>= fun lines =>
      .ok (Grid.text
        ⟨s.columns.map (·.ident.text), lines.map fun line => line.map Value.display⟩) := by
    rw [lines_eq, hfst, display, List.mapIdx_eq_zipIdx_map]
    cases rows.find? (!·.isOf s) with
    | some stranger => rfl
    | none =>
      show Except.ok (Grid.text ⟨_, _⟩) = Except.ok (Grid.text ⟨_, List.map _ (List.map _ _)⟩)
      rw [List.map_map, List.map_map]
      rfl
  rw [hdisplay]
  exact (endsAs_lines s e rows).bind fun lines _ => rfl

end Schema

/-! ### Selections -/

/-- A selection that is ready to be run, with places that are plain numbers. -/
structure BareSelection extends Query where
  schema : Schema
  places : List Nat

namespace BareSelection

/-- The places of the columns that are asked for. -/
def placesOf (q : Select) : Access (List Nat) :=
  match q.columns with
  | [] => pure (List.range q.schema.columns.length)
  | columns => columns.mapM fun c =>
    match q.schema.placeOf c with
    | some k => pure k
    | none => throw (.selectOutside c.name q.schema.table)

/-- The statement that selects the columns at these places. -/
def render (s : Schema) (places : List Nat) (tail : Tail) : Access Statement :=
  if places.isEmpty then pure .empty
  else do
    let columns ← places.mapM (pick s.columns)
    return ⟨"SELECT " ++ Text.commas (columns.map Column.sql) ++ " FROM " ++ s.table.sql ++
      tail.sql, tail.params .empty⟩

/-- Checks the request and writes the statement. -/
def build (q : Select) : Access BareSelection := do
  ofResult q.clauses.check
  let places ← placesOf q
  let tail ← ofResult (q.clauses.tail q.schema.table)
  let statement ← render q.schema places tail
  return ⟨⟨statement, tail.tables q.schema.table⟩, q.schema, places⟩

/-- Runs the query and makes a row of every record that comes back. -/
def fetch (q : BareSelection) (client : Client σ) (state : σ) : Access (List BareRow) × σ :=
  let (records, state) := q.records client state
  (do (← ofResult records).mapM (BareRow.ofRecord q.schema q.places), state)

end BareSelection

/-- The form that a selection takes over plain numbers. -/
def SelectQuery.bare (q : SelectQuery) : BareSelection :=
  ⟨q.toQuery, q.schema, q.positions.map Fin.val⟩

namespace Select

theorem endsAs_positions (q : Select) :
    EndsAs (BareSelection.placesOf q) (List.map Fin.val) q.positions := by
  have hends : EndsAs (q.columns.mapM fun c =>
      match q.schema.placeOf c with
      | some k => pure k
      | none => throw (.selectOutside c.name q.schema.table))
      (List.map Fin.val) (q.columns.mapM (position q.schema)) := by
    refine .mapM_self fun c _ => ?_
    unfold position
    rw [Schema.placeOf_eq]
    cases q.schema.position? c.name <;> rfl
  unfold BareSelection.placesOf positions
  cases hcolumns : q.columns with
  | nil =>
    rw [Schema.range_eq_map]
    rfl
  | cons c columns =>
    rw [hcolumns] at hends
    exact hends

theorem endsAs_statement (s : Schema) (positions : List (Fin s.columns.length)) (tail : Tail) :
    EndsAs (BareSelection.render s (positions.map Fin.val) tail) id
      (.ok (statement s positions tail)) := by
  unfold BareSelection.render statement
  rw [List.isEmpty_map]
  split
  · rfl
  · have hcolumns : EndsAs ((positions.map Fin.val).mapM (pick s.columns)) id
        (.ok (positions.map s.get)) := .mapM_ok fun k _ => Schema.endsAs_column k
    refine hcolumns.bind_ok ?_
    rw [id, List.map_map]
    rfl

/-- Building a selection goes for places that are there only. -/
theorem endsAs_build (q : Select) : EndsAs (BareSelection.build q) SelectQuery.bare q.build :=
  (endsAs_ofResult q.clauses.check).bind fun _ _ => (endsAs_positions q).bind fun positions _ =>
    (endsAs_ofResult (q.clauses.tail q.schema.table)).bind fun tail _ =>
      (endsAs_statement q.schema positions tail).bind_ok rfl

end Select

/-- Rows that come back are made at places that are there. -/
theorem SelectQuery.endsAs_fetch (q : SelectQuery) (client : Client σ) (state : σ) :
    EndsAs (q.bare.fetch client state).1 (List.map Instance.bare) (q.fetch client state).1 :=
  (endsAs_ofResult (q.records client state).1).bind fun _ _ =>
    .mapM_self fun r _ => Instance.endsAs_ofRecord q.schema q.positions r

/-! ### Insertions -/

/-- Runs the query, which fills its rows. They are as they were if that fails. -/
def BareInsertion.run (q : BareInsertion) (client : Client σ) (state : σ) :
    Option (BareInsertion × σ) :=
  match q.records client state with
  | (.error _, state) => some (q, state)
  | (.ok records, state) => do
    match ← (q.takeOver records).run with
    | .ok after => return (after, state)
    | .error _ => return (q, state)

namespace InsertQuery

variable {q : InsertQuery}

/-- A run of rows that fit goes for places that are there only. -/
theorem run_bare (h : q.Fits) (client : Client σ) (state : σ) :
    q.bare.run client state = some (Prod.map bare id (q.run client state).2) := by
  unfold BareInsertion.run run
  show (match q.records client state with | (.error _, state) => _ | (.ok records, state) => _) = _
  obtain ⟨records | records, state'⟩ := q.records client state
  · rfl
  · dsimp only
    rw [on_takeOver, (endsAs_takeOver h records).run_eq]
    cases q.backFill records <;> rfl

/-- Rows still fit after a run. -/
theorem Fits.run (h : q.Fits) (client : Client σ) (state : σ) :
    (q.run client state).2.1.Fits := by
  rw [run_eq]
  split
  · next hexecute =>
    obtain ⟨records, -, hfill⟩ := bind_eq_ok.1 (congrArg Prod.fst hexecute)
    obtain ⟨after, hfill, heq⟩ := map_eq_ok.1 hfill
    cases heq
    exact h.backFill hfill
  · exact h

end InsertQuery

/-! ### Random rows -/

/-- A row whose values are to be drawn by the server. -/
def BareRow.drawn (s : Schema) : Access BareRow :=
  s.columns.foldlM (fun r c =>
    if c.type.isSerial && c.foreignKey.isNone then pure r
    else do r.set c.ident.text (.random (← ofResult c.generator).sql)) (.new s)

namespace BareInsertion

/-- An insertion of rows whose values are to be drawn by the server. -/
def ofDrawn (s : Schema) (count : Nat) (e : Batch.Evaluations) : Access BareInsertion := do
  let rows ← (List.replicate count ()).mapM fun _ => BareRow.drawn s
  build s rows .doNothing e

/-- The rows as they were written. -/
def written (q : BareInsertion) (records : Except Error (List Record)) : Access (List BareRow) := do
  return (← q.takeOver (← ofResult records)).rows

/-- Writes rows whose values the server draws, and gives them as they were written. -/
def random (s : Schema) (count : Nat) (e : Batch.Evaluations) (client : Client σ) (state : σ) :
    Option (Except Error (List BareRow) × σ) := do
  match ← (ofDrawn s count e).run with
  | .error e => return (.error e, state)
  | .ok q =>
    let (records, state) := q.records client state
    return (← (q.written records).run, state)

end BareInsertion

/-- The rows that an insertion gives at once are filled at places that are there. -/
theorem InsertQuery.endsAs_written {q : InsertQuery} (h : q.Fits) (client : Client σ) (state : σ) :
    EndsAs (q.bare.written (q.records client state).1) (List.map Instance.bare)
      ((q.execute client state).1.map fun r => r.2.rows) := by
  have hexecute : ((q.execute client state).1.map fun r => r.2.rows) =
      (q.records client state).1 >>= fun records =>
        q.backFill records >>= fun after => .ok after.rows := by
    show ((q.records client state).1.bind fun records =>
      (q.backFill records).map (records.length, ·)).map _ = _
    cases (q.records client state).1 with
    | error e => rfl
    | ok records =>
      show ((q.backFill records).map _).map _ = q.backFill records >>= fun after => .ok after.rows
      cases q.backFill records <;> rfl
  rw [hexecute]
  exact (endsAs_ofResult _).bind fun records _ =>
    (endsAs_takeOver h records).bind fun after _ => rfl

namespace Schema

theorem endsAs_randomRow (s : Schema) : EndsAs (BareRow.drawn s) Instance.bare s.randomRow := by
  unfold BareRow.drawn
  rw [← Instance.bare_new]
  refine .foldlM_self (fun c _ i => ?_) (Instance.new s)
  split
  · rfl
  · exact (endsAs_ofResult c.generator).bind fun g _ => Instance.endsAs_set i _ _

/-- Rows are drawn at places that are there only. -/
theorem random_bare (s : Schema) (count : Nat) (e : Batch.Evaluations) (client : Client σ)
    (state : σ) : BareInsertion.random s count e client state =
      some (Prod.map (Except.map (List.map Instance.bare)) id
        (s.random count e client state)) := by
  have hrows : EndsAs ((List.replicate count ()).mapM fun _ => BareRow.drawn s)
      (List.map Instance.bare) ((List.replicate count ()).mapM fun _ => s.randomRow) :=
    .mapM_self fun _ _ => endsAs_randomRow s
  have hbuilt : EndsAs (BareInsertion.ofDrawn s count e) InsertQuery.bare (do
      let rows ← (List.replicate count ()).mapM fun _ => s.randomRow
      Insert.build { schema := s, rows := rows, evaluations := e }) :=
    hrows.bind fun rows _ => endsAs_build s rows .doNothing e
  unfold BareInsertion.random random
  rw [hbuilt.run_eq]
  cases hbuild : (do
      let rows ← (List.replicate count ()).mapM fun _ => s.randomRow
      Insert.build { schema := s, rows := rows, evaluations := e } : Except Error InsertQuery) with
  | error e => rfl
  | ok q =>
    obtain ⟨rows, -, hbuild⟩ := bind_eq_ok.1 hbuild
    have hfits := InsertQuery.fits_of_build hbuild
    show ((q.bare.written (q.records client state).1).run >>= fun rows =>
      pure (rows, (q.records client state).2)) = _
    rw [(InsertQuery.endsAs_written hfits client state).run_eq]
    rfl

end Schema

end TypedTable
