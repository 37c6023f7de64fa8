import TypedTable.Proofs.Access.Query
/-!
# Sessions that are never stopped at a place

A `BareSession` keeps bare rows, and `BareSession.step` carries out the requests of a session with
them: it goes for slots and columns by plain numbers, and is stopped at the first place that is not
there. What is read is not answered; only the session afterwards and the state of the client count.

`Session.step_bare` says that a step from rows of a session is not stopped and leads to the rows
that `Session.step` leads to. So no run of requests is stopped, whatever the client does, and every
row that is kept has exactly one slot for every column (`BareSession.runAll_complete`).
It is the slots that keep a session going: one that reads a column which a row has no slot for is
stopped (`BareSession.step_get_eq_none`).
-/

namespace TypedTable

open Access

variable {σ : Type}

/-! ### Bare sessions -/

/-- Bare rows that are kept under names, and the number of the next bound value. -/
structure BareSession where
  rows : List (String × BareRow) := []
  next : Nat := 0

/-- How often a query is run. -/
def Mode.runs : Mode → Nat
  | prepared n => n
  | direct => 1

namespace BareSession

/-- The row that is kept under a name. -/
def row? (s : BareSession) (name : String) : Option BareRow := s.rows.lookup name

/-- Keeps a row under a name, in place of the one that was there. -/
def keep (s : BareSession) (name : String) (r : BareRow) : BareSession :=
  { s with rows := (name, r) :: s.rows.filter (·.1 ≠ name) }

/-- Keeps rows under names, one after the other. -/
def keepAll (s : BareSession) (named : List (String × BareRow)) : BareSession :=
  named.foldl (fun s e => s.keep e.1 e.2) s

/-- Keeps rows under a name with their number behind it, if there is a name. -/
def keepNumbered (s : BareSession) (name : Option String) (rows : List BareRow) : BareSession :=
  match name with
  | none => s
  | some name => s.keepAll (rows.zipIdx.map fun (r, k) => (name ++ Text.naturalText k, r))

/-- Keeps the rows of every outcome that has some. -/
def keepOutcomes (s : BareSession) (name : Option String)
    (outcomes : List (Except Error (List BareRow))) : BareSession :=
  outcomes.foldl (fun s outcome =>
    match outcome with
    | .ok rows => s.keepNumbered name rows
    | .error _ => s) s

/-- The rows that are kept under names, or the first name that has none. -/
def rowsOf (s : BareSession) (names : List String) : Except String (List BareRow) :=
  names.mapM fun name =>
    match s.row? name with
    | some r => .ok r
    | none => .error name

/-- Reads something of the row under a name. -/
def look {α : Type} (s : BareSession) (name : String) (f : BareRow → Access α) :
    Option BareSession :=
  match s.row? name with
  | some r => (f r).run.map fun _ => s
  | none => some s

/-- Changes the row under a name. If that fails it is kept as it was. -/
def change (s : BareSession) (name : String) (f : BareRow → Access BareRow) :
    Option BareSession :=
  match s.row? name with
  | none => some s
  | some r => do
    match ← (f r).run with
    | .ok after => return s.keep name after
    | .error _ => return s.keep name r

/-- Runs a selection a number of times. -/
def fetchRepeated (q : BareSelection) (client : Client σ) :
    Nat → σ → Option (List (Except Error (List BareRow)) × σ)
  | 0, state => some ([], state)
  | n + 1, state => do
    let outcome ← (q.fetch client state).1.run
    let (others, state) ← fetchRepeated q client n (q.fetch client state).2
    return (outcome :: others, state)

/-- Runs an insertion a number of times; each run goes on with the rows that the one before
filled. -/
def insertRepeated (client : Client σ) : Nat → BareInsertion → σ → Option (BareInsertion × σ)
  | 0, q, state => some (q, state)
  | n + 1, q, state => do
    let (q, state) ← q.run client state
    insertRepeated client n q state

/-- Carries out a selection of columns that have been looked up. -/
def runSelect (s : BareSession) (q : Select) (mode : Mode) (keep : Option String)
    (client : Client σ) (state : σ) : Option (BareSession × σ) := do
  match ← (BareSelection.build q).run with
  | .error _ => return (s, state)
  | .ok built =>
    let (outcomes, state) ← fetchRepeated built client mode.runs state
    return (s.keepOutcomes keep outcomes, state)

/-- Carries out an insertion of rows that are kept under names. -/
def runInsert (s : BareSession) (schema : Schema) (rows : List BareRow) (policy : ConflictPolicy)
    (e : Batch.Evaluations) (names : List String) (mode : Mode) (client : Client σ) (state : σ) :
    Option (BareSession × σ) := do
  match ← (BareInsertion.build schema rows policy e).run with
  | .error _ =>
    match mode with
    | .prepared _ => return (s, state)
    | .direct => return (s.keepAll (names.zip rows), state)
  | .ok built =>
    let (built, state) ← insertRepeated client mode.runs built state
    return (s.keepAll (names.zip built.rows), state)

/-- Carries out a request. -/
def step (client : Client σ) (s : BareSession) (state : σ) : Request → Option (BareSession × σ)
  | .new name schema cells => do
    match ← ((BareRow.new schema).setAll cells).run with
    | .ok r => return (s.keep name r, state)
    | .error _ => return (s, state)
  | .set name column v => do return (← s.change name (·.set column v), state)
  | .unset name column => do return (← s.change name (·.unset column), state)
  | .copy source target =>
    match s.row? source with
    | some r => some (s.keep target r, state)
    | none => some (s, state)
  | .get name column e => do return (← s.look name (·.get e column), state)
  | .value name column => do return (← s.look name (·.value column), state)
  | .isSet name column => do return (← s.look name (·.value column), state)
  | .isOf _ _ => some (s, state)
  | .display schema names e =>
    match s.rowsOf names with
    | .ok rows => (BareRow.display schema e rows).run.map fun _ => (s, state)
    | .error _ => some (s, state)
  | .select schema columns clauses mode keep =>
    match columns.mapM ColumnRef.resolve with
    | .error _ => some (s, state)
    | .ok columns =>
      let (clauses, next) := ClauseRequest.resolveAll s.next clauses
      let s := { s with next := next }
      match clauses with
      | .error _ => some (s, state)
      | .ok clauses => s.runSelect ⟨schema, columns, Clauses.addAll {} clauses⟩ mode keep client state
  -- What is changed in the table itself has nothing to do with the rows that are kept.
  | .update schema sets clauses mode =>
    let after := (Session.step client ⟨[], s.next⟩ state (.update schema sets clauses mode)).2
    some ({ s with next := after.1.next }, after.2)
  | .delete schema clauses mode =>
    let after := (Session.step client ⟨[], s.next⟩ state (.delete schema clauses mode)).2
    some ({ s with next := after.1.next }, after.2)
  | .insert schema names policies mode e =>
    match s.rowsOf names with
    | .error _ => some (s, state)
    | .ok rows => s.runInsert schema rows (policies.getLastD .doNothing) e names mode client state
  | .random schema count keep e => do
    let (outcome, state) ← BareInsertion.random schema count e client state
    return (s.keepOutcomes keep [outcome], state)

/-- Carries out requests, one after the other, from a session without rows. -/
def runAll (client : Client σ) (state : σ) (requests : List Request) :
    Option (BareSession × σ) :=
  requests.foldlM (fun after r => after.1.step client after.2 r) ({}, state)

/-- Whether every row that is kept has exactly one slot for every column. -/
def IsComplete (s : BareSession) : Prop := ∀ e ∈ s.rows, e.2.IsComplete

/-- A session is stopped where it reads a column that a row has no slot for. -/
theorem step_get_eq_none {s : BareSession} {name : String} {r : BareRow}
    (hr : s.row? name = some r) {k : Fin r.schema.columns.length} (hk : r.slots.length ≤ k)
    (client : Client σ) (state : σ) (e : Evaluation) :
    s.step client state (.get name (r.schema.get k).ident.text e) = none := by
  have hplace : r.schema.place (r.schema.get k).ident.text = .ok (k : Nat) := by
    rw [Schema.place_eq, Schema.index_get]
    rfl
  have hread : (r.read e k).run = none := by
    show (r.slot k).run.bind _ = none
    rw [BareRow.slot_eq_none_iff.2 hk]
    rfl
  have hget : (r.get e (r.schema.get k).ident.text).run = none := by
    rw [BareRow.get, hplace]
    exact hread
  show (s.look name (·.get e (r.schema.get k).ident.text) >>= fun after => some (after, state)) =
    none
  rw [look, hr]
  dsimp only
  rw [hget]
  rfl

end BareSession

namespace Session

/-- Carries out requests, one after the other, from a session without rows. -/
def runAll (client : Client σ) (state : σ) (requests : List Request) : Session × σ :=
  requests.foldl (fun after r => (after.1.step client after.2 r).2) ({}, state)

/-- The session with its rows as bare ones. -/
def bare (s : Session) : BareSession := ⟨s.rows.map (Prod.map id Instance.bare), s.next⟩

/-! ### Rows that are kept -/

theorem next_bare (s : Session) : s.bare.next = s.next := rfl

theorem row?_bare (s : Session) (name : String) :
    s.bare.row? name = (s.row? name).map Instance.bare := by
  unfold BareSession.row? row? bare
  induction s.rows with
  | nil => rfl
  | cons e rows ih =>
    rw [List.map_cons, Prod.map, List.lookup_cons, ih, List.lookup_cons]
    dsimp only [id]
    cases name == e.1 <;> rfl

theorem keep_bare (s : Session) (name : String) (i : Instance) :
    (s.keep name i).bare = s.bare.keep name i.bare := by
  unfold keep BareSession.keep bare
  dsimp only
  rw [List.map_cons, List.filter_map]
  rfl

theorem keepAll_bare (s : Session) (named : List (String × Instance)) :
    (s.keepAll named).bare = s.bare.keepAll (named.map (Prod.map id Instance.bare)) := by
  induction named generalizing s with
  | nil => rfl
  | cons e named ih =>
    have hstep := ih (s.keep e.1 e.2)
    rw [keep_bare] at hstep
    exact hstep

theorem keepAll_zip_bare (s : Session) (names : List String) (rows : List Instance) :
    (s.keepAll (names.zip rows)).bare = s.bare.keepAll (names.zip (rows.map Instance.bare)) := by
  rw [keepAll_bare, List.zip_map_right]

theorem keepNumbered_bare (s : Session) (name : Option String) (rows : List Instance) :
    (s.keepNumbered name rows).bare = s.bare.keepNumbered name (rows.map Instance.bare) := by
  cases name with
  | none => rfl
  | some name =>
    rw [keepNumbered, keepAll_bare, BareSession.keepNumbered, List.zipIdx_map, List.map_map,
      List.map_map]
    rfl

/-- The rows of an outcome. -/
def rowsOfOutcome (outcome : Except Error Outcome) : Except Error (List BareRow) :=
  outcome.map fun
    | .rows l => l.map Instance.bare
    | .count _ => []

theorem keepOutcomes_bare (s : Session) (name : Option String)
    (outcomes : List (Except Error Outcome)) :
    (s.keepOutcomes name outcomes).bare =
      s.bare.keepOutcomes name (outcomes.map rowsOfOutcome) := by
  induction outcomes generalizing s with
  | nil => rfl
  | cons outcome outcomes ih =>
    cases outcome with
    | error e => exact ih s
    | ok outcome =>
      cases outcome with
      | rows l =>
        have hstep := ih (s.keepNumbered name l)
        rw [keepNumbered_bare] at hstep
        exact hstep
      | count n =>
        -- No row is kept, under whatever name.
        have hstep := ih (s.keepNumbered name [])
        rw [keepNumbered_bare] at hstep
        cases name <;> exact hstep

theorem rowsOf_bare (s : Session) (names : List String) :
    s.bare.rowsOf names = (s.rowsOf names).map (List.map Instance.bare) := by
  induction names with
  | nil => rfl
  | cons name names ih =>
    unfold BareSession.rowsOf rowsOf at ih ⊢
    rw [List.mapM_cons, List.mapM_cons, ih, row?_bare]
    cases s.row? name with
    | none => rfl
    | some i =>
      dsimp only [Option.map_some]
      generalize (List.mapM _ names : Except String (List Instance)) = others
      cases others <;> rfl

/-! ### Single steps -/

variable {client : Client σ}

/-- A change in place goes for places that are there if the row that it comes to does. -/
theorem change_bare (s : Session) (name : String) {f : InPlace Instance Unit}
    {g : Instance → Except Error Instance} {h : BareRow → Access BareRow}
    (hf : ∀ i, f.on i = InPlace.atOnce i (g i))
    (hh : ∀ i : Instance, EndsAs (h i.bare) Instance.bare (g i)) :
    s.bare.change name h = some (s.change name f).2.bare := by
  unfold BareSession.change change
  rw [row?_bare]
  cases s.row? name with
  | none => rfl
  | some i =>
    dsimp only [Option.map_some]
    rw [hf, (hh i).run_eq]
    cases g i with
    | error e => exact congrArg some (keep_bare s name i).symm
    | ok j => exact congrArg some (keep_bare s name j).symm

theorem look_bare (s : Session) (name : String) {α β : Type} {form : β → α}
    {f : BareRow → Access α} {g : Instance → Except Error β}
    (h : ∀ i : Instance, EndsAs (f i.bare) form (g i)) :
    s.bare.look name f = some s.bare := by
  unfold BareSession.look
  rw [row?_bare]
  cases s.row? name with
  | none => rfl
  | some i =>
    dsimp only [Option.map_some]
    rw [(h i).run_eq]
    rfl

theorem fetchRepeated_bare (q : SelectQuery) (n : Nat) (state : σ) :
    BareSession.fetchRepeated q.bare client n state =
      some (Prod.map (List.map rowsOfOutcome) id (repeated (fetch q client) n state)) := by
  induction n generalizing state with
  | zero => rfl
  | succ n ih =>
    have houtcome : rowsOfOutcome (fetch q client state).1 =
        (q.fetch client state).1.map (List.map Instance.bare) := by
      show ((q.fetch client state).1.map Outcome.rows).map _ = _
      cases (q.fetch client state).1 <;> rfl
    rw [BareSession.fetchRepeated, (q.endsAs_fetch client state).run_eq, ← houtcome]
    show (BareSession.fetchRepeated q.bare client n (q.fetch client state).2 >>= fun others =>
      some (rowsOfOutcome (fetch q client state).1 :: others.1, others.2)) = _
    rw [ih]
    rfl

theorem insertRepeated_bare {q : InsertQuery} (h : q.Fits) (n : Nat) (state : σ) :
    BareSession.insertRepeated client n q.bare state =
      some (Prod.map InsertQuery.bare id (insertRepeated client n q state).2) := by
  induction n generalizing q state with
  | zero => rfl
  | succ n ih =>
    rw [BareSession.insertRepeated, InsertQuery.run_bare h]
    exact ih (h.run client state) _

theorem runSelect_bare (s : Session) (q : Select) (mode : Mode) (keep : Option String)
    (state : σ) : s.bare.runSelect q mode keep client state =
      some (Prod.map bare id (s.runSelect q mode keep client state).2) := by
  unfold BareSession.runSelect runSelect
  rw [(Select.endsAs_build q).run_eq]
  cases q.build with
  | error e => cases mode <;> rfl
  | ok built =>
    show (BareSession.fetchRepeated built.bare client mode.runs state >>= fun after =>
      some (s.bare.keepOutcomes keep after.1, after.2)) = _
    rw [fetchRepeated_bare]
    show some (s.bare.keepOutcomes keep ((repeated (fetch built client) mode.runs state).1.map
      rowsOfOutcome), (repeated (fetch built client) mode.runs state).2) = _
    rw [← keepOutcomes_bare]
    cases mode <;> rfl

theorem runInsert_bare (s : Session) (q : Insert) (names : List String) (mode : Mode) (state : σ) :
    s.bare.runInsert q.schema (q.rows.map Instance.bare) q.policy q.evaluations names mode client
        state = some (Prod.map bare id (s.runInsert q names mode client state).2) := by
  unfold BareSession.runInsert runInsert
  rw [(endsAs_build q.schema q.rows q.policy q.evaluations).run_eq]
  cases hbuild : q.build with
  | error e =>
    cases mode with
    | prepared n => rfl
    | direct =>
      show some (s.bare.keepAll (names.zip (q.rows.map Instance.bare)), state) = _
      rw [← keepAll_zip_bare]
      rfl
  | ok built =>
    show (BareSession.insertRepeated client mode.runs built.bare state >>= fun after =>
      some (s.bare.keepAll (names.zip after.1.rows), after.2)) = _
    rw [insertRepeated_bare (InsertQuery.fits_of_build hbuild)]
    show some (s.bare.keepAll (names.zip
        ((insertRepeated client mode.runs built state).2.1.rows.map Instance.bare)),
      (insertRepeated client mode.runs built state).2.2) = _
    rw [← keepAll_zip_bare]
    cases mode <;> rfl

/-- Of several policies the last one counts. -/
theorem foldl_onConflict (policies : List ConflictPolicy) (schema : Schema) (rows : List Instance)
    (policy : ConflictPolicy) (e : Batch.Evaluations) :
    policies.foldl Insert.onConflict ⟨schema, rows, policy, e⟩ =
      ⟨schema, rows, policies.getLastD policy, e⟩ := by
  induction policies generalizing policy with
  | nil => rfl
  | cons first policies ih =>
    rw [List.foldl_cons, List.getLastD_cons]
    exact ih first

/-! ### Steps and runs -/

/-- A step from the rows of a session is not stopped at any place, and leads to the rows that the
session keeps after it. -/
theorem step_bare (s : Session) (state : σ) (r : Request) :
    BareSession.step client s.bare state r =
      some (Prod.map bare id (s.step client state r).2) := by
  cases r with
  | new name schema cells =>
    unfold BareSession.step step
    dsimp only
    rw [← Instance.bare_new, (Instance.endsAs_setAll (.new schema) cells).run_eq]
    cases (Instance.new schema).setAll cells with
    | error e => rfl
    | ok i =>
      show some (s.bare.keep name i.bare, state) = _
      rw [← keep_bare]
      rfl
  | set name column v =>
    show (s.bare.change name (·.set column v) >>= fun after => some (after, state)) = _
    rw [change_bare s name (Instance.on_assign · column v) (Instance.endsAs_set · column v)]
    rfl
  | unset name column =>
    show (s.bare.change name (·.unset column) >>= fun after => some (after, state)) = _
    rw [change_bare s name (Instance.on_clear · column) (Instance.endsAs_unset · column)]
    rfl
  | copy source target =>
    unfold BareSession.step step
    dsimp only
    rw [row?_bare]
    cases s.row? source with
    | none => rfl
    | some i => exact congrArg (fun after => some (after, state)) (keep_bare s target i).symm
  | get name column e =>
    show (s.bare.look name (·.get e column) >>= fun after => some (after, state)) = _
    rw [look_bare s name (Instance.endsAs_get · e column)]
    rfl
  | value name column | isSet name column =>
    show (s.bare.look name (·.value column) >>= fun after => some (after, state)) = _
    rw [look_bare s name (Instance.endsAs_value · column)]
    rfl
  | isOf name schema => rfl
  | display schema names e =>
    unfold BareSession.step step
    dsimp only
    rw [rowsOf_bare]
    cases s.rowsOf names with
    | error name => rfl
    | ok rows =>
      show (BareRow.display schema e (rows.map Instance.bare)).run.map _ = _
      rw [(schema.endsAs_display e rows).run_eq]
      rfl
  | select schema columns clauses mode keep =>
    unfold BareSession.step step
    dsimp only
    cases columns.mapM ColumnRef.resolve with
    | error e => rfl
    | ok columns =>
      dsimp only
      rw [next_bare]
      obtain ⟨resolved | resolved, next⟩ := ClauseRequest.resolveAll s.next clauses
      · rfl
      · exact runSelect_bare { s with next := next } ⟨schema, columns, .addAll {} resolved⟩ mode keep
          state
  | update schema sets clauses mode | delete schema clauses mode =>
    unfold BareSession.step step
    dsimp only
    rw [next_bare]
    cases (ClauseRequest.resolveAll s.next clauses).1 <;> rfl
  | insert schema names policies mode e =>
    unfold BareSession.step step
    dsimp only
    rw [rowsOf_bare]
    cases s.rowsOf names with
    | error name => rfl
    | ok rows =>
      dsimp only [Except.map]
      rw [foldl_onConflict]
      exact runInsert_bare s ⟨schema, rows, _, e⟩ names mode state
  | random schema count keep e =>
    unfold BareSession.step step
    dsimp only
    rw [schema.random_bare count e client state]
    have houtcome : rowsOfOutcome ((schema.random count e client state).1.map Outcome.rows) =
        (schema.random count e client state).1.map (List.map Instance.bare) := by
      unfold rowsOfOutcome
      cases (schema.random count e client state).1 <;> rfl
    show some (s.bare.keepOutcomes keep
      [(schema.random count e client state).1.map (List.map Instance.bare)], _) = _
    rw [← houtcome]
    exact congrArg (fun after => some (after, _)) (keepOutcomes_bare s keep [_]).symm

theorem foldlM_step_bare (s : Session) (state : σ) (requests : List Request) :
    requests.foldlM (fun after r => after.1.step client after.2 r) (s.bare, state) =
      some (Prod.map bare id
        (requests.foldl (fun after r => (after.1.step client after.2 r).2) (s, state))) := by
  induction requests generalizing s state with
  | nil => rfl
  | cons r requests ih =>
    rw [List.foldlM_cons]
    dsimp only
    rw [step_bare]
    exact ih (s.step client state r).2.1 (s.step client state r).2.2

theorem isComplete_bare (s : Session) : s.bare.IsComplete := by
  intro e he
  obtain ⟨e, -, rfl⟩ := List.mem_map.1 he
  exact e.2.isComplete_bare

end Session

/-- Whatever is asked of a session and whatever the client does, no slot and no column is gone for
at a place that is not there: the requests are carried out to the end, lead to the rows that the
session keeps, and every row has exactly one slot for every column of its declaration. The statement
that makes a table finds the columns of the key as well. -/
theorem BareSession.runAll_complete (client : Client σ) (state : σ) (requests : List Request) :
    (∃ after : BareSession × σ, runAll client state requests = some after ∧
      after = Prod.map Session.bare id (Session.runAll client state requests) ∧
      after.1.IsComplete) ∧
    ∀ s : Schema, s.createTableByPlaces = pure s.createTable :=
  ⟨⟨_, Session.foldlM_step_bare {} state requests, rfl, Session.isComplete_bare _⟩,
    Schema.endsAs_createTable⟩

end TypedTable
