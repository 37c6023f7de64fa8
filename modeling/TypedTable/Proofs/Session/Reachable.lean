import TypedTable.Proofs.InPlace
import TypedTable.Proofs.Rendering.Insertion
import TypedTable.Session
/-!
# The rows that a session can come to keep

`Instance.Arises` describes the rows that can come about over a set of declarations: rows are made,
set and unset, come back from a server, and are filled with rows that come back for another
declaration of their table, if that fits.

A session that starts without rows and carries out requests over the declarations keeps only such
rows, whatever the client does (`Session.Reachable.arises`). One lemma for every part of a session
says that it keeps them if it kept them before.
-/

namespace TypedTable

/-- The rows that can come about over a set of declarations. -/
inductive Instance.Arises (tables : Schema → Prop) : Instance → Prop
  | new {s : Schema} (hs : tables s) : Arises tables (.new s)
  | set {i j : Instance} {column : String} {v : Value} (hi : Arises tables i)
      (hset : i.set column v = .ok j) : Arises tables j
  | unset {i j : Instance} {column : String} (hi : Arises tables i)
      (hunset : i.unset column = .ok j) : Arises tables j
  | ofRecord {s : Schema} (hs : tables s) {columns : List (Fin s.columns.length)} {r : Record}
      {i : Instance} (hi : Instance.ofRecord s columns r = .ok i) : Arises tables i
  | fill {i h : Instance} {s : Schema} {r : Record} (hi : Arises tables i) (hs : tables s)
      (hof : i.isOf s = true)
      (hh : Instance.ofRecord s (List.finRange s.columns.length) r = .ok h) :
      Arises tables (i.fill h)

/-- Whether the rows that a request makes or writes are those of a set of declarations. -/
def Request.IsOver (tables : Schema → Prop) : Request → Prop
  | new _ s _ | select s _ _ _ _ | insert s _ _ _ _ | random s _ _ _ => tables s
  | _ => True

/-- The sessions that can be reached with a client, with the state that they leave it in. -/
inductive Session.Reachable {σ : Type} (tables : Schema → Prop) (client : Client σ) :
    Session → σ → Prop
  | start (state : σ) : Reachable tables client {} state
  | step {s : Session} {state : σ} (h : Reachable tables client s state) {r : Request}
      (hr : r.IsOver tables) :
      Reachable tables client (s.step client state r).2.1 (s.step client state r).2.2

variable {tables : Schema → Prop}

/-! ### Filled rows -/

namespace BackFill

variable {P : Instance → Prop} {s : Schema} {policy : ConflictPolicy}
  {before returned : List Instance}

theorem forall_mem_fillByKey (hbefore : ∀ i ∈ before, P i) {h : Instance}
    (hfill : ∀ i, P i → P (i.fill h)) : ∀ i ∈ fillByKey s policy before h, P i := by
  cases policy with
  | doNothing =>
    show ∀ i ∈ fillFirst s h before, P i
    induction before with
    | nil => exact fun i hi => absurd hi List.not_mem_nil
    | cons i before ih =>
      obtain ⟨hi, hbefore⟩ := List.forall_mem_cons.1 hbefore
      rw [fillFirst]
      split
      · exact List.forall_mem_cons.2 ⟨hfill i hi, hbefore⟩
      · exact List.forall_mem_cons.2 ⟨hi, ih hbefore⟩
  | upsert =>
    intro i hi
    obtain ⟨j, hj, rfl⟩ := List.mem_map.1 hi
    split
    · exact hfill j (hbefore j hj)
    · exact hbefore j hj

/-- What holds of the rows of a batch and is kept by filling a row holds of the filled rows. -/
theorem forall_mem_rows (hbefore : ∀ i ∈ before, P i)
    (hfill : ∀ i, ∀ h ∈ returned, P i → P (i.fill h)) :
    ∀ i ∈ rows s policy before returned, P i := by
  unfold rows
  split
  · intro i hi
    rw [← List.map_uncurry_zip_eq_zipWith] at hi
    obtain ⟨⟨j, h⟩, hmem, rfl⟩ := List.mem_map.1 hi
    obtain ⟨hj, hh⟩ := List.of_mem_zip hmem
    exact hfill j h hh (hbefore j hj)
  · split
    · exact hbefore
    · exact List.foldlRecOn (motive := fun rows => ∀ i ∈ rows, P i) returned (fillByKey s policy)
        hbefore fun rows hrows h hh => forall_mem_fillByKey hrows fun i => hfill i h hh

end BackFill

/-! ### Insertions -/

namespace InsertQuery

variable {σ : Type} {q after : InsertQuery}

/-- Whether the rows of a query can come about and fit its declaration. -/
structure Holds (tables : Schema → Prop) (q : InsertQuery) : Prop where
  schema : tables q.schema
  rows : ∀ i ∈ q.rows, i.Arises tables ∧ i.isOf q.schema = true

theorem Holds.backFill (h : q.Holds tables) {records : List Record}
    (hafter : q.backFill records = .ok after) : after.Holds tables := by
  obtain ⟨returned, hreturned, hafter⟩ := bind_eq_ok.1 hafter
  cases hafter
  refine ⟨h.schema, BackFill.forall_mem_rows h.rows fun i r hr hi => ⟨?_, hi.2⟩⟩
  obtain ⟨record, -, hrecord⟩ := exists_of_mem_right (mapM_eq_ok_iff.1 hreturned) hr
  exact .fill hi.1 h.schema hi.2 hrecord

theorem Holds.execute (h : q.Holds tables) {client : Client σ} {state : σ} {n : Nat}
    (hafter : (q.execute client state).1 = .ok (n, after)) : after.Holds tables := by
  obtain ⟨records, -, hfill⟩ := bind_eq_ok.1 hafter
  obtain ⟨q', hfill, heq⟩ := map_eq_ok.1 hfill
  cases heq
  exact h.backFill hfill

theorem Holds.run (h : q.Holds tables) (client : Client σ) (state : σ) :
    (q.run client state).2.1.Holds tables := by
  rw [run_eq]
  split
  · next hexecute => exact h.execute (congrArg Prod.fst hexecute)
  · exact h

theorem holds_of_build {q : Insert} {b : InsertQuery} (hbuild : q.build = .ok b)
    (hschema : tables q.schema) (hrows : ∀ i ∈ q.rows, i.Arises tables) : b.Holds tables := by
  obtain ⟨hfits, -, statement, -, rfl⟩ := Insert.build_eq_ok_iff.1 hbuild
  exact ⟨hschema, fun i hi => ⟨hrows i hi, hfits i hi⟩⟩

end InsertQuery

/-! ### Rows that a query gives -/

theorem Instance.Arises.setAll {i j : Instance} (hi : i.Arises tables)
    {cells : List (String × Value)} (h : i.setAll cells = .ok j) : j.Arises tables :=
  of_foldlM_eq_ok (fun _ _ _ hi hset => hi.set hset) hi h

theorem arises_of_fetch {σ : Type} {q : SelectQuery} (hs : tables q.schema) {client : Client σ}
    {state : σ} {rows : List Instance} (h : (q.fetch client state).1 = .ok rows) :
    ∀ i ∈ rows, i.Arises tables := by
  intro i hi
  unfold SelectQuery.fetch at h
  obtain ⟨records, -, hrows⟩ := bind_eq_ok.1 h
  obtain ⟨r, -, hr⟩ := exists_of_mem_right (mapM_eq_ok_iff.1 hrows) hi
  exact .ofRecord hs hr

theorem arises_of_randomRow {s : Schema} (hs : tables s) {i : Instance} (h : s.randomRow = .ok i) :
    i.Arises tables := by
  refine of_foldlM_eq_ok (P := Instance.Arises tables) (fun i c j hi hstep => ?_) (.new hs) h
  split at hstep
  · cases hstep
    exact hi
  · obtain ⟨g, -, hset⟩ := bind_eq_ok.1 hstep
    exact hi.set hset

theorem arises_of_random {σ : Type} {s : Schema} (hs : tables s) {count : Nat}
    {e : Batch.Evaluations} {client : Client σ} {state : σ} {rows : List Instance}
    (h : (s.random count e client state).1 = .ok rows) :
    ∀ i ∈ rows, i.Arises tables := by
  unfold Schema.random at h
  dsimp only at h
  split at h
  · exact (nomatch h)
  · next q hbuilt =>
    obtain ⟨before, hbefore, hbuild⟩ := bind_eq_ok.1 hbuilt
    have hbefore : ∀ i ∈ before, i.Arises tables := fun i hi =>
      let ⟨_, _, hi⟩ := exists_of_mem_right (mapM_eq_ok_iff.1 hbefore) hi
      arises_of_randomRow hs hi
    obtain ⟨⟨n, after⟩, hexecute, rfl⟩ := map_eq_ok.1 h
    have hafter := (InsertQuery.holds_of_build hbuild hs hbefore).execute hexecute
    exact fun i hi => (hafter.rows i hi).1

/-! ### Sessions -/

namespace Session

variable {σ : Type} {s : Session} {client : Client σ} {state : σ}

/-- Whether all rows that a session keeps can come about. -/
def Keeps (tables : Schema → Prop) (s : Session) : Prop := ∀ e ∈ s.rows, e.2.Arises tables

theorem Keeps.keep (h : s.Keeps tables) (name : String) {i : Instance} (hi : i.Arises tables) :
    (s.keep name i).Keeps tables :=
  List.forall_mem_cons.2 ⟨hi, fun e he => h e (List.mem_of_mem_filter he)⟩

theorem Keeps.withNext (h : s.Keeps tables) (next : Nat) :
    Keeps tables { s with next := next } := h

theorem Keeps.keepAll (h : s.Keeps tables) {named : List (String × Instance)}
    (hnamed : ∀ e ∈ named, e.2.Arises tables) : (s.keepAll named).Keeps tables :=
  List.foldlRecOn (motive := Keeps tables) named _ h fun _ hs e he => hs.keep e.1 (hnamed e he)

theorem Keeps.keepNumbered (h : s.Keeps tables) (name : Option String) {rows : List Instance}
    (hrows : ∀ i ∈ rows, i.Arises tables) : (s.keepNumbered name rows).Keeps tables := by
  cases name with
  | none => exact h
  | some name =>
    refine h.keepAll fun e he => ?_
    obtain ⟨⟨i, k⟩, hmem, rfl⟩ := List.mem_map.1 he
    exact hrows i (List.mem_of_getElem? (List.mk_mem_zipIdx_iff_getElem?.1 hmem))

theorem Keeps.keepOutcomes (h : s.Keeps tables) (name : Option String)
    {outcomes : List (Except Error Outcome)}
    (hrows : ∀ rows, .ok (.rows rows) ∈ outcomes → ∀ i ∈ rows, i.Arises tables) :
    (s.keepOutcomes name outcomes).Keeps tables := by
  refine List.foldlRecOn (motive := Keeps tables) outcomes _ h fun s hs outcome ho => ?_
  split
  · exact hs.keepNumbered name (hrows _ ho)
  · exact hs

theorem Keeps.row? (h : s.Keeps tables) {name : String} {i : Instance} (hi : s.row? name = some i) :
    i.Arises tables := by
  obtain ⟨before, behind, hrows, -⟩ := List.lookup_eq_some_iff.1 hi
  exact h (name, i) (hrows ▸ List.mem_append_right before List.mem_cons_self)

theorem Keeps.rowsOf (h : s.Keeps tables) {names : List String} {rows : List Instance}
    (hrows : s.rowsOf names = .ok rows) : ∀ i ∈ rows, i.Arises tables := by
  intro i hi
  obtain ⟨name, -, hname⟩ := exists_of_mem_right (mapM_eq_ok_iff.1 hrows) hi
  split at hname
  · next hrow =>
    cases hname
    exact h.row? hrow
  · exact (nomatch hname)

/-- A change keeps what rows can come about if its result can. -/
theorem Keeps.change (h : s.Keeps tables) (name : String) {f : InPlace Instance Unit}
    {g : Instance → Except Error Instance} (hf : ∀ i, f.on i = InPlace.atOnce i (g i))
    (hg : ∀ i j, i.Arises tables → g i = .ok j → j.Arises tables) :
    (s.change name f).2.Keeps tables := by
  unfold Session.change
  split
  · exact h
  · next i hi =>
    have hi := h.row? hi
    rw [hf]
    cases hresult : g i with
    | ok j => exact h.keep name (hg i j hi hresult)
    | error e => exact h.keep name hi

theorem rows_of_fetch {q : SelectQuery} {rows : List Instance}
    (h : (fetch q client state).1 = .ok (.rows rows)) : (q.fetch client state).1 = .ok rows := by
  obtain ⟨rows', hrows, heq⟩ := map_eq_ok.1 h
  cases heq
  exact hrows

/-- What repeated runs give is given by one of them. -/
theorem exists_of_mem_repeated {run : σ → Except Error Outcome × σ} {n : Nat} {state : σ}
    {outcome : Except Error Outcome} (h : outcome ∈ (repeated run n state).1) :
    ∃ state', (run state').1 = outcome := by
  induction n generalizing state with
  | zero => exact absurd h List.not_mem_nil
  | succ n ih =>
    rcases List.mem_cons.1 h with rfl | h
    · exact ⟨state, rfl⟩
    · exact ih h

theorem schema_of_build {q : Select} {b : SelectQuery} (h : q.build = .ok b) :
    b.schema = q.schema := by
  obtain ⟨⟨⟩, -, h⟩ := bind_eq_ok.1 h
  obtain ⟨positions, -, h⟩ := bind_eq_ok.1 h
  obtain ⟨tail, -, h⟩ := bind_eq_ok.1 h
  cases h
  rfl

theorem Keeps.runSelect (h : s.Keeps tables) {q : Select} (hs : tables q.schema) (mode : Mode)
    (keep : Option String) : (s.runSelect q mode keep client state).2.1.Keeps tables := by
  unfold Session.runSelect
  cases hbuild : q.build with
  | error e => cases mode <;> exact h
  | ok b =>
    have hb : tables b.schema := by rw [schema_of_build hbuild]; exact hs
    cases mode with
    | prepared n =>
      refine h.keepOutcomes keep fun rows hrows => ?_
      obtain ⟨state', hrun⟩ := exists_of_mem_repeated hrows
      exact arises_of_fetch hb (rows_of_fetch hrun)
    | direct =>
      refine h.keepOutcomes keep fun rows hrows => ?_
      exact arises_of_fetch hb (rows_of_fetch (List.mem_singleton.1 hrows).symm)

theorem holds_insertRepeated {q : InsertQuery} (hq : q.Holds tables) (n : Nat) (state : σ) :
    (insertRepeated client n q state).2.1.Holds tables := by
  induction n generalizing q state with
  | zero => exact hq
  | succ n ih => exact ih (hq.run client state) _

theorem Keeps.keepAll_zip (h : s.Keeps tables) (names : List String) {rows : List Instance}
    (hrows : ∀ i ∈ rows, i.Arises tables) : (s.keepAll (names.zip rows)).Keeps tables :=
  h.keepAll fun e he => hrows e.2 (List.of_mem_zip he).2

theorem Keeps.runInsert (h : s.Keeps tables) {q : Insert} (hs : tables q.schema)
    (hrows : ∀ i ∈ q.rows, i.Arises tables) (names : List String) (mode : Mode) :
    (s.runInsert q names mode client state).2.1.Keeps tables := by
  unfold Session.runInsert
  cases hbuild : q.build with
  | error e =>
    cases mode with
    | prepared n => exact h
    | direct => exact h.keepAll_zip names hrows
  | ok b =>
    have hb := InsertQuery.holds_of_build hbuild hs hrows
    cases mode with
    | prepared n =>
      exact h.keepAll_zip names fun i hi => ((holds_insertRepeated hb n state).rows i hi).1
    | direct => exact h.keepAll_zip names fun i hi => ((hb.run client state).rows i hi).1

/-- Policies leave the declaration and the rows of an insertion as they are. -/
theorem schema_rows_onConflict (policies : List ConflictPolicy) (q : Insert) :
    (policies.foldl Insert.onConflict q).schema = q.schema ∧
      (policies.foldl Insert.onConflict q).rows = q.rows :=
  List.foldlRecOn (motive := fun q' : Insert => q'.schema = q.schema ∧ q'.rows = q.rows) policies _
    ⟨rfl, rfl⟩ fun _ h _ _ => h

/-- A step keeps what rows can come about. -/
theorem Keeps.step (h : s.Keeps tables) {r : Request} (hr : r.IsOver tables) (client : Client σ)
    (state : σ) : (s.step client state r).2.1.Keeps tables := by
  cases r with
  | new name schema cells =>
    unfold Session.step
    dsimp only
    split
    · next i hi => exact h.keep name ((Instance.Arises.new hr).setAll hi)
    · exact h
  | set name column v =>
    exact h.change name (Instance.on_assign · column v) fun _ _ hi hset => hi.set hset
  | unset name column =>
    exact h.change name (Instance.on_clear · column) fun _ _ hi hunset => hi.unset hunset
  | copy source target =>
    unfold Session.step
    dsimp only
    split
    · next hi => exact h.keep target (h.row? hi)
    · exact h
  | get | value | isSet | isOf => exact h
  | display schema names e =>
    unfold Session.step
    dsimp only
    split <;> exact h
  | select schema columns clauses mode keep =>
    unfold Session.step
    dsimp only
    split
    · exact h
    · split
      · exact h
      · refine (h.withNext _).runSelect ?_ mode keep
        exact hr
  | update schema sets clauses mode =>
    unfold Session.step
    dsimp only
    split <;> exact h
  | delete schema clauses mode =>
    unfold Session.step
    dsimp only
    split <;> exact h
  | insert schema names policies mode e =>
    unfold Session.step
    dsimp only
    split
    · exact h
    · next rows hrows =>
      refine h.runInsert ?_ ?_ names mode
      · rw [(schema_rows_onConflict ..).1]
        exact hr
      · rw [(schema_rows_onConflict ..).2]
        exact h.rowsOf hrows
  | random schema count keep e =>
    refine h.keepOutcomes keep fun rows hrows => ?_
    obtain ⟨rows', hrows', heq⟩ := map_eq_ok.1 (List.mem_singleton.1 hrows).symm
    cases heq
    exact arises_of_random hr hrows'

/-- Whatever a client does, a session that is reached by requests over a set of declarations keeps
rows only that can come about over it. -/
theorem Reachable.arises (h : Reachable tables client s state) {e : String × Instance}
    (he : e ∈ s.rows) : e.2.Arises tables := by
  have hkeeps : s.Keeps tables := by
    clear he
    induction h with
    | start => exact fun e he => absurd he List.not_mem_nil
    | step _ hr ih => exact ih.step hr client _
  exact hkeeps e he

end Session

end TypedTable
