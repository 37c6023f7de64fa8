import TypedTable.Proofs.Atomicity
import TypedTable.Proofs.Session.Reachable
/-!
# Slots in the form of their columns

A row that is written through another declaration of its table gets the values that come back in the
form of that declaration. So the rows that a session keeps are well typed exactly if the columns of
one name store the same values in all declarations of a table (`Schema.Agree`), which is what
`Session.wellTyped_iff_agree` says.

Where they do not, a value that one declaration stores and another one does not is brought into a
row of the other one by a new row, an insertion and a server that returns the value
(`Session.exists_reachable_slot`).
-/

namespace TypedTable

variable {tables : Schema → Prop}

/-- Whether columns of one name store the same values in all declarations of a table that fit each
other. -/
def Schema.Agree (tables : Schema → Prop) : Prop :=
  ∀ s s', tables s → tables s' → s.table = s'.table →
    s.columns.map Column.name = s'.columns.map Column.name →
    ∀ c ∈ s.columns, ∀ c' ∈ s'.columns, c.name = c'.name →
      ∀ v, c'.convert v = .ok v → c.convert v = .ok v

/-- Tables with columns of the same names have the columns of one name at the same place. -/
theorem Schema.getElem?_of_name {s s' : Schema} {k : Nat} {c c' : Column}
    (hnames : s.columns.map Column.name = s'.columns.map Column.name) (hc : c ∈ s.columns)
    (hk : s'.columns[k]? = some c') (hname : c.name = c'.name) : s.columns[k]? = some c := by
  have hat : (s.columns[k]?).map Column.name = some c.name := by
    rw [← List.getElem?_map, hnames, List.getElem?_map, hk, hname]
    rfl
  obtain ⟨d, hd, hdname⟩ := Option.map_eq_some_iff.1 hat
  have heq : d = c := List.inj_on_of_nodup_map s.nodup (List.mem_of_getElem? hd) hc
    (congrArg ColumnName.column hdname)
  exact heq ▸ hd

namespace Instance

theorem isOf_iff {i : Instance} {s : Schema} : i.isOf s = true ↔
    i.schema.table = s.table ∧ i.schema.columns.map Column.name = s.columns.map Column.name :=
  decide_eq_true_iff

theorem Arises.schema {i : Instance} (h : i.Arises tables) : tables i.schema := by
  induction h with
  | new hs => exact hs
  | set _ hset ih =>
    rw [schema_of_set hset]
    exact ih
  | unset _ hunset ih =>
    rw [schema_of_unset hunset]
    exact ih
  | ofRecord hs hi =>
    rw [(ofRecord_cases hi).2.1]
    exact hs
  | fill _ _ _ _ ih => exact ih

/-- Rows are well typed if the declarations agree. -/
theorem Arises.wellTyped {i : Instance} (hagree : Schema.Agree tables) (h : i.Arises tables) :
    i.WellTyped := by
  induction h with
  | new _ => exact wellTyped_new _
  | set _ hset ih => exact ih.set hset
  | unset _ hunset ih => exact ih.unset hunset
  | ofRecord _ hi => exact wellTyped_ofRecord hi
  | @fill i h s r hi hs hof hh ih =>
    refine ih.fill fun k c v hc hv => ?_
    obtain ⟨htable, hnames⟩ := isOf_iff.1 hof
    have hschema := (ofRecord_cases hh).2.1
    -- The value is in the form of the column at the same place, which has the same name.
    have hname : (s.columns[k]?).map Column.name = some c.name := by
      rw [← List.getElem?_map, ← hnames, List.getElem?_map, hc]
      rfl
    obtain ⟨c', hc', hname⟩ := Option.map_eq_some_iff.1 hname
    refine hagree i.schema s hi.schema hs htable hnames c (List.mem_of_getElem? hc) c'
      (List.mem_of_getElem? hc') hname.symm v ?_
    exact wellTyped_ofRecord hh k c' v (hschema ▸ hc') hv

end Instance

/-! ### A row that is written through another declaration -/

/-- A value that the server is to draw: every column takes it. -/
def drawn : Value := .random "1"

/-- A row in which every column is left to the server. -/
def Schema.drawnCells (s : Schema) : List (String × Value) :=
  (List.finRange s.columns.length).map fun (k : Fin s.columns.length) =>
    ((s.get k).ident.text, drawn)

/-- A record that is null but for one place. -/
def recordWith (s : Schema) (k : Nat) (v : Value) : Record :=
  (List.replicate s.columns.length Value.null).set k v

/-- A client that returns one record. -/
def returning (r : Record) : Client Unit := ⟨fun _ state => (.ok [r], state)⟩

variable {s s' : Schema} {k : Nat} {c : Column} {v : Value}

/-- A column can be left to the server whatever it stores. -/
theorem set_drawn (i : Instance) (k : Fin i.schema.columns.length) :
    i.set (i.schema.get k).ident.text drawn = .ok (i.put k drawn) := by
  unfold Instance.set
  rw [i.schema.index_get k]
  rfl

/-- Columns are left to the server one after the other, and those that are stay so. -/
theorem exists_setAll_places (places : List (Fin s.columns.length)) {i : Instance}
    (hi : i.schema = s) :
    ∃ j, i.setAll (places.map fun (k : Fin s.columns.length) =>
        ((s.get k).ident.text, drawn)) = .ok j ∧ j.schema = s ∧
      ∀ l, (i.slot l = some drawn ∨ ∃ k ∈ places, (k : Nat) = l) → j.slot l = some drawn := by
  induction places generalizing i with
  | nil => exact ⟨i, rfl, hi, fun l hl => hl.resolve_right (by simp)⟩
  | cons k places ih =>
    obtain rfl := hi
    obtain ⟨j, hj, hschema, hslots⟩ := ih (i := i.put k drawn) rfl
    refine ⟨j, ?_, hschema, fun l hl => hslots l ?_⟩
    · rw [List.map_cons, Instance.setAll, List.foldlM_cons, set_drawn]
      exact hj
    · rw [Instance.slot_put i l drawn k.isLt]
      rcases hl with hl | ⟨k', hk', rfl⟩
      · exact .inl (by rw [hl, ite_self])
      · rcases List.mem_cons.1 hk' with rfl | hk'
        · exact .inl (if_pos rfl)
        · exact .inr ⟨k', hk', rfl⟩

/-- A row can be made in which every column is left to the server. -/
theorem exists_setAll_drawn (s : Schema) : ∃ i, (Instance.new s).setAll s.drawnCells = .ok i ∧
    i.schema = s ∧ ∀ k : Fin s.columns.length, i.slot k = some drawn := by
  obtain ⟨i, hi, hschema, hslots⟩ :=
    exists_setAll_places (List.finRange s.columns.length) (i := .new s) rfl
  exact ⟨i, hi, hschema, fun k => hslots k (.inr ⟨k, List.mem_finRange k, rfl⟩)⟩

/-- A row that is left to the server can be written, whatever the columns ask for. -/
theorem exists_build_drawn {i : Instance} (hof : i.isOf s' = true) (hcolumns : s'.columns ≠ [])
    (hslots : ∀ k : Fin s'.columns.length, i.slot k = some drawn) :
    ∃ b, Insert.build ⟨s', [i], .doNothing, {}⟩ = .ok b ∧ b.schema = s' ∧ b.rows = [i] ∧
      b.isNoop = false := by
  have hcells : ∀ row : Batch.Entry, row.row = i → ∃ cells, Insert.cells s' row = .ok cells := by
    rintro row rfl
    refine exists_mapM_eq_ok fun k _ => ⟨.random "1", ?_⟩
    rw [hslots k]
    rfl
  obtain ⟨row, hrow⟩ := hcells ⟨i, 0, _, _⟩ rfl
  have hsent : (Batch.sent s' .doNothing (Batch.entries {} [i])).mapM (Insert.cells s') =
      .ok [row] := mapM_eq_ok_iff.2 (.cons hrow .nil)
  have hrender := Insert.render_of_cells (q := ⟨s', [i], .doNothing, {}⟩) (List.cons_ne_nil i [])
    hcolumns hsent
  refine ⟨_, Insert.build_eq_ok_iff.2 ⟨?_, fun h => (nomatch h), _, hrender, rfl⟩, rfl, rfl, ?_⟩
  · exact fun j hj => List.mem_singleton.1 hj ▸ hof
  · exact isEmpty_insertStatement s' .doNothing [row]

/-- A record of one value is accepted if its column stores the value. -/
theorem accepts_recordWith (hc : s.columns[k]? = some c) (hv : c.convert v = .ok v) :
    s.Accepts (recordWith s k v) := by
  refine ⟨by rw [recordWith, List.length_set, List.length_replicate], fun l u hu => ⟨u, ?_⟩⟩
  rw [recordWith, List.getElem?_set] at hu
  split at hu
  · next hkl =>
    split at hu
    · cases hu
      rw [Schema.get_eq_of_getElem? (hkl ▸ hc)]
      exact hv
    · cases hu
  · rw [List.getElem?_replicate] at hu
    split at hu
    · cases hu
      rfl
    · cases hu

/-- The row of a record of one value holds the value if its column stores it. -/
theorem slot_recordWith {h : Instance} (hc : s.columns[k]? = some c) (hv : c.convert v = .ok v)
    (hh : Instance.ofRecord s (List.finRange s.columns.length) (recordWith s k v) = .ok h) :
    h.slot k = some v := by
  obtain ⟨hk, rfl⟩ := List.getElem?_eq_some_iff.1 hc
  obtain ⟨u, w, hu, hw, hslot⟩ := Instance.slot_ofRecord hh ⟨k, hk⟩
  have hcell : (recordWith s k v)[k]? = some v := by
    rw [recordWith, List.getElem?_set_self (by rwa [List.length_replicate])]
  cases hcell.symm.trans hu
  cases hv.symm.trans hw
  exact hslot

/-- A single row is filled from the record that comes back for it. -/
theorem run_returning {q : InsertQuery} {i h : Instance} {r : Record} (hsent : q.isNoop = false)
    (hrows : q.rows = [i])
    (hh : Instance.ofRecord q.schema (List.finRange q.schema.columns.length) r = .ok h) :
    q.run (returning r) () = (.ok 1, { q with rows := [i.fill h] }, ()) := by
  refine InsertQuery.run_eq_ok_iff.2 ⟨[r], ?_, rfl,
    bind_eq_ok.2 ⟨[h], mapM_eq_ok_iff.2 (.cons hh .nil), ?_⟩⟩
  · rw [Query.records, if_neg (by rw [hsent]; decide)]
    rfl
  · rw [hrows]
    rfl

/-! ### The rows of a session -/

namespace Session

variable {σ : Type} {client : Client σ} {session : Session} {state : σ}

theorem step_new {i : Instance} {name : String} {cells : List (String × Value)}
    (h : (Instance.new s).setAll cells = .ok i) :
    session.step client state (.new name s cells) = (.row i, session.keep name i, state) := by
  simp only [step, h]

theorem step_insert {names : List String} {rows : List Instance} {b : InsertQuery}
    (hrows : session.rowsOf names = .ok rows)
    (hbuild : Insert.build ⟨s, rows, .doNothing, {}⟩ = .ok b) :
    (session.step client state (.insert s names [] .direct)).2 =
      (session.keepAll (names.zip (b.run client state).2.1.rows), (b.run client state).2.2) := by
  simp only [step, hrows, List.foldl_nil, runInsert, hbuild]
  rfl

/-- A value that a column of one declaration stores can be brought into the slot of the column of
the same name in a row of another declaration. -/
theorem exists_reachable_slot (hs : tables s) (hs' : tables s') (htable : s.table = s'.table)
    (hnames : s.columns.map Column.name = s'.columns.map Column.name)
    (hc : s'.columns[k]? = some c) (hv : c.convert v = .ok v) :
    ∃ session, Reachable tables (returning (recordWith s' k v)) session () ∧
      ∃ e ∈ session.rows, e.2.schema = s ∧ e.2.slot k = some v := by
  have hlength : s.columns.length = s'.columns.length := by
    simpa using congrArg List.length hnames
  have hk := (List.getElem?_eq_some_iff.1 hc).1
  -- The row is made under one declaration and fits the other one.
  obtain ⟨i, hi, rfl, hslots⟩ := exists_setAll_drawn s
  have hof : i.isOf s' = true := Instance.isOf_iff.2 ⟨htable, hnames⟩
  obtain ⟨b, hbuild, rfl, hbrows, hsent⟩ := exists_build_drawn hof
    (List.ne_nil_of_mem (List.mem_of_getElem? hc))
    fun l => hslots ⟨l, hlength.symm.subst (motive := (l.val < ·)) l.isLt⟩
  -- The server returns the value for it.
  obtain ⟨h, hh⟩ := Instance.exists_ofRecord_iff.2 (accepts_recordWith hc hv)
  have hrun := run_returning hsent hbrows hh
  have hslot : (i.fill h).slot k = some v := by
    rw [Instance.slot_fill i h (hlength.symm ▸ hk), slot_recordWith hc hv hh]
    rfl
  have hstart : Reachable tables (returning (recordWith b.schema k v)) {} () := .start ()
  have hnew := hstart.step (r := .new "x" i.schema i.schema.drawnCells) hs
  rw [step_new hi] at hnew
  have hinsert := hnew.step (r := .insert b.schema ["x"] [] .direct) hs'
  have hkept : (keep {} "x" i).rowsOf ["x"] = .ok [i] := rfl
  rw [step_insert hkept hbuild, hrun] at hinsert
  exact ⟨_, hinsert, ("x", i.fill h), List.mem_cons_self, rfl, hslot⟩

/-- Every row that a session keeps holds only values in the form of their columns, whatever the
client does, exactly if the columns of one name store the same values in all declarations of a
table. -/
theorem wellTyped_iff_agree (tables : Schema → Prop) :
    (∀ (σ : Type) (client : Client σ) (session : Session) (state : σ),
      Reachable tables client session state → ∀ e ∈ session.rows, e.2.WellTyped) ↔
    Schema.Agree tables := by
  constructor
  · intro hwell s s' hs hs' htable hnames c hc c' hc' hname v hv
    obtain ⟨k, hk⟩ := List.getElem?_of_mem hc'
    obtain ⟨session, hreach, e, he, rfl, hslot⟩ :=
      exists_reachable_slot hs hs' htable hnames hk hv
    exact hwell Unit _ session () hreach e he k c v
      (Schema.getElem?_of_name hnames hc hk hname) hslot
  · exact fun hagree _ _ _ _ hreach e he => (hreach.arises he).wellTyped hagree

end Session

/-! ### A table that was declared twice -/

namespace Redeclared

/-- The table of both declarations. -/
def table : TableName := ⟨⟨"library", by decide, by decide⟩, ⟨"codes", by decide, by decide⟩⟩

/-- The column, with the type of one of the declarations. -/
def code (type : SqlType) : Column where
  name := ⟨table, ⟨"code", by decide, by decide⟩⟩
  type := type
  primaryKey := true
  unique := true
  notNull := true
  default := none
  foreignKey := none

def schema (type : SqlType) : Schema where
  table := table
  columns := [code type]
  table_eq := by simp [code, Column.table]
  nodup := by simp

/-- The table with texts and with integers as codes. -/
def declarations (s : Schema) : Prop := s = schema .text ∨ s = schema .integer

/-- An integer column stores a number as it is, and a text column writes it out. -/
theorem not_agree : ¬Schema.Agree declarations := by
  intro hagree
  have hstores : (code .text).convert (.integer 1) = .ok (.integer 1) :=
    hagree (schema .text) (schema .integer) (.inl rfl) (.inr rfl) rfl rfl (code .text)
      (List.mem_singleton.2 rfl) (code .integer) (List.mem_singleton.2 rfl) rfl (.integer 1) rfl
  cases hstores

/-- A session can come to keep a number in a text column. -/
theorem exists_not_wellTyped : ∃ (σ : Type) (client : Client σ) (session : Session) (state : σ),
    Session.Reachable declarations client session state ∧ ∃ e ∈ session.rows, ¬e.2.WellTyped := by
  by_contra hnone
  refine not_agree ((Session.wellTyped_iff_agree declarations).1 ?_)
  intro σ client session state hreach e he
  by_contra hwell
  exact hnone ⟨σ, client, session, state, hreach, e, he, hwell⟩

end Redeclared

end TypedTable
