import TypedTable.Display
import TypedTable.InPlace
import TypedTable.Session.Request
/-!
# Sessions

A `Session` keeps rows under names and the number that the next bound value takes. `Session.step`
carries out one request with a client and gives an `Answer`, the session after it, and the state
that the client is left in.

Rows are changed in place (`TypedTable.InPlace`), and the session keeps them as a change leaves
them, also as one that failed does. A bound value keeps its number also when the condition it stands
in fails, so two conditions of one session never share a number.
-/

namespace TypedTable

/-- The rows that are kept under names, and the number of the next bound value. -/
structure Session where
  rows : List (String × Instance) := []
  next : Nat := 0

/-- What running a query gives. -/
inductive Outcome
  | rows (l : List Instance)
  | count (n : Nat)
deriving DecidableEq

/-- The answer to a request. -/
inductive Answer
  | row (i : Instance)
  /-- A change that failed, and the row as it still is. -/
  | rejected (e : Error) (i : Instance)
  | value (v : Value)
  /-- What a column is set to, if it is. -/
  | slot (v : Option Value)
  | truth (b : Bool)
  | text (s : String)
  /-- A selection that was built, and what its runs gave. -/
  | selected (q : SelectQuery) (runs : List (Except Error Outcome))
  /-- A change of rows that was built, and what its runs gave. -/
  | changed (q : Query) (runs : List (Except Error Outcome))
  /-- An insertion that was built, with its rows after all runs, and what the runs gave. -/
  | inserted (q : InsertQuery) (runs : List (Except Error Outcome))
  /-- What a query gave that was built and run at once. -/
  | direct (result : Except Error Outcome)
  /-- The same for an insertion, with its rows afterwards. -/
  | insertedDirect (result : Except Error Outcome) (rows : List Instance)
  | failed (e : Error)
  /-- There is no row under the name. -/
  | missing (name : String)

namespace Session

/-- The row that is kept under a name. -/
def row? (s : Session) (name : String) : Option Instance := s.rows.lookup name

/-- Keeps a row under a name, in place of the one that was there. -/
def keep (s : Session) (name : String) (i : Instance) : Session :=
  { s with rows := (name, i) :: s.rows.filter (·.1 ≠ name) }

/-- Keeps rows under names, one after the other. -/
def keepAll (s : Session) (named : List (String × Instance)) : Session :=
  named.foldl (fun s e => s.keep e.1 e.2) s

/-- Keeps rows under a name with their number behind it, if there is a name. -/
def keepNumbered (s : Session) (name : Option String) (rows : List Instance) : Session :=
  match name with
  | none => s
  | some name => s.keepAll (rows.zipIdx.map fun (i, k) => (name ++ Text.naturalText k, i))

/-- Keeps the rows of every outcome that has some. -/
def keepOutcomes (s : Session) (name : Option String) (outcomes : List (Except Error Outcome)) :
    Session :=
  outcomes.foldl (fun s outcome =>
    match outcome with
    | .ok (.rows l) => s.keepNumbered name l
    | _ => s) s

/-- The rows that are kept under names, or the first name that has none. -/
def rowsOf (s : Session) (names : List String) : Except String (List Instance) :=
  names.mapM fun name =>
    match s.row? name with
    | some i => .ok i
    | none => .error name

/-- Does something with the row under a name. -/
def withRow (s : Session) (name : String) (f : Instance → Answer) : Answer :=
  match s.row? name with
  | some i => f i
  | none => .missing name

/-- Changes the row under a name. -/
def change (s : Session) (name : String) (f : InPlace Instance Unit) : Answer × Session :=
  match s.row? name with
  | none => (.missing name, s)
  | some i =>
    match f.on i with
    | (.ok (), j) => (.row j, s.keep name j)
    | (.error e, j) => (.rejected e j, s.keep name j)

/-- An answer, or the error in its place. -/
def answerOf (f : α → Answer) : Except Error α → Answer
  | .ok a => f a
  | .error e => .failed e

variable {σ : Type}

/-- Runs something a number of times. -/
def repeated (run : σ → Except Error Outcome × σ) : Nat → σ → List (Except Error Outcome) × σ
  | 0, state => ([], state)
  | n + 1, state =>
    let (outcome, state) := run state
    let (others, state) := repeated run n state
    (outcome :: others, state)

/-- Runs a selection. -/
def fetch (q : SelectQuery) (client : Client σ) (state : σ) : Except Error Outcome × σ :=
  let (rows, state) := q.fetch client state
  (rows.map .rows, state)

/-- Runs a change of rows. -/
def execute (q : Query) (client : Client σ) (state : σ) : Except Error Outcome × σ :=
  let (count, state) := q.execute client state
  (count.map .count, state)

/-- Runs an insertion, which fills its rows. -/
def insertOnce (q : InsertQuery) (client : Client σ) (state : σ) :
    Except Error Outcome × InsertQuery × σ :=
  let (count, q, state) := q.run client state
  (count.map .count, q, state)

/-- Runs an insertion a number of times; each run goes on with the rows that the one before
filled. -/
def insertRepeated (client : Client σ) :
    Nat → InsertQuery → σ → List (Except Error Outcome) × InsertQuery × σ
  | 0, q, state => ([], q, state)
  | n + 1, q, state =>
    let (outcome, q, state) := insertOnce q client state
    let (others, q, state) := insertRepeated client n q state
    (outcome :: others, q, state)

/-- Carries out a selection of columns that have been looked up. -/
def runSelect (s : Session) (q : Select) (mode : Mode) (keep : Option String)
    (client : Client σ) (state : σ) : Answer × Session × σ :=
  match mode, q.build with
  | .prepared _, .error e => (.failed e, s, state)
  | .direct, .error e => (.direct (.error e), s, state)
  | .prepared n, .ok built =>
    let (outcomes, state) := repeated (fetch built client) n state
    (.selected built outcomes, s.keepOutcomes keep outcomes, state)
  | .direct, .ok built =>
    let (outcome, state) := fetch built client state
    (.direct outcome, s.keepOutcomes keep [outcome], state)

/-- Carries out a change of rows. -/
def runChange (built : Except Error Query) (mode : Mode) (client : Client σ) (state : σ) :
    Answer × σ :=
  match mode, built with
  | .prepared _, .error e => (.failed e, state)
  | .direct, .error e => (.direct (.error e), state)
  | .prepared n, .ok q =>
    let (outcomes, state) := repeated (execute q client) n state
    (.changed q outcomes, state)
  | .direct, .ok q =>
    let (outcome, state) := execute q client state
    (.direct outcome, state)

/-- Carries out an insertion of rows that are kept under names. -/
def runInsert (s : Session) (q : Insert) (names : List String) (mode : Mode) (client : Client σ)
    (state : σ) : Answer × Session × σ :=
  match mode, q.build with
  | .prepared _, .error e => (.failed e, s, state)
  | .direct, .error e => (.insertedDirect (.error e) q.rows, s.keepAll (names.zip q.rows), state)
  | .prepared n, .ok built =>
    let (outcomes, built, state) := insertRepeated client n built state
    (.inserted built outcomes, s.keepAll (names.zip built.rows), state)
  | .direct, .ok built =>
    let (outcome, built, state) := insertOnce built client state
    (.insertedDirect outcome built.rows, s.keepAll (names.zip built.rows), state)

/-- Carries out a request. -/
def step (client : Client σ) (s : Session) (state : σ) : Request → Answer × Session × σ
  | .new name schema cells =>
    match (Instance.new schema).setAll cells with
    | .ok i => (.row i, s.keep name i, state)
    | .error e => (.failed e, s, state)
  | .set name column v =>
    let (answer, s) := s.change name (Instance.assign column v)
    (answer, s, state)
  | .unset name column =>
    let (answer, s) := s.change name (Instance.clear column)
    (answer, s, state)
  | .copy source target =>
    match s.row? source with
    | some i => (.row i, s.keep target i, state)
    | none => (.missing source, s, state)
  | .get name column e => (s.withRow name fun i => answerOf .value (i.get e column), s, state)
  | .value name column => (s.withRow name fun i => answerOf .slot (i.value column), s, state)
  | .isSet name column => (s.withRow name fun i => answerOf .truth (i.isSet column), s, state)
  | .isOf name schema => (s.withRow name fun i => .truth (i.isOf schema), s, state)
  | .display schema names e =>
    match s.rowsOf names with
    | .ok rows => (answerOf .text (schema.display e rows), s, state)
    | .error name => (.missing name, s, state)
  | .select schema columns clauses mode keep =>
    match columns.mapM ColumnRef.resolve with
    | .error e => (.failed e, s, state)
    | .ok columns =>
      let (clauses, next) := ClauseRequest.resolveAll s.next clauses
      let s := { s with next := next }
      match clauses with
      | .error e => (.failed e, s, state)
      | .ok clauses =>
        let clauses := (Clauses.addAll {} clauses)
        s.runSelect ⟨schema, columns, clauses⟩ mode keep client state
  | .update schema sets clauses mode =>
    let (clauses, next) := ClauseRequest.resolveAll s.next clauses
    let s := { s with next := next }
    match clauses with
    | .error e => (.failed e, s, state)
    | .ok clauses =>
      let q := sets.foldl (fun q set => q.set set.1 set.2)
        ({ schema := schema, clauses := Clauses.addAll {} clauses } : Update)
      let (answer, state) := runChange q.build mode client state
      (answer, s, state)
  | .delete schema clauses mode =>
    let (clauses, next) := ClauseRequest.resolveAll s.next clauses
    let s := { s with next := next }
    match clauses with
    | .error e => (.failed e, s, state)
    | .ok clauses =>
      let q : Delete := { schema := schema, clauses := Clauses.addAll {} clauses }
      let (answer, state) := runChange q.build mode client state
      (answer, s, state)
  | .insert schema names policies mode e =>
    match s.rowsOf names with
    | .error name => (.missing name, s, state)
    | .ok rows =>
      let q := policies.foldl Insert.onConflict ⟨schema, rows, .doNothing, e⟩
      s.runInsert q names mode client state
  | .random schema count keep e =>
    let (rows, state) := schema.random count e client state
    let outcome := rows.map Outcome.rows
    (.direct outcome, s.keepOutcomes keep [outcome], state)

end Session

end TypedTable
