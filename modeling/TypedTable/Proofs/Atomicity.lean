import TypedTable.Proofs.InPlace
import TypedTable.Proofs.Rendering.Insertion
/-!
# Writes succeed as a whole or change nothing

The columns of a table accept a record if it has a cell for each of them and each of them can
convert its cell (`Schema.Accepts`). An insertion succeeds exactly if rows come back and all of them
are accepted (`InsertQuery.run_isOk_iff`), and setting a column exactly if there is such a column
and it takes the value (`Instance.on_assign_eq_ok_iff`).

`unchanged_of_failure` adds what a failure leaves behind: whatever the client does and whichever
record is refused, every row is as it was.
-/

namespace TypedTable

/-! ### Records that a table accepts -/

/-- Whether a record has a cell for every column and every column can convert its cell. -/
def Schema.Accepts (s : Schema) (r : Record) : Prop :=
  r.length = s.columns.length ∧ ∀ (k : Fin s.columns.length) (v : Value),
    r[(k : Nat)]? = some v → ∃ w, (s.get k).convert v = .ok w

namespace Instance

variable {s : Schema}

/-- Cells are put into a row one after the other if every column can convert its cell. -/
theorem exists_foldlM_putCell {cells : List (Fin s.columns.length × Value)}
    (h : ∀ cell ∈ cells, ∃ w, (s.get cell.1).convert cell.2 = .ok w) (i : Instance) :
    ∃ j, cells.foldlM (putCell s) i = .ok j := by
  induction cells generalizing i with
  | nil => exact ⟨i, rfl⟩
  | cons cell cells ih =>
    obtain ⟨⟨w, hw⟩, hrest⟩ := List.forall_mem_cons.1 h
    obtain ⟨j, hj⟩ := ih hrest (i.put cell.1 w)
    exact ⟨j, by rw [List.foldlM_cons, putCell, hw]; exact hj⟩

/-- A row is made of a record exactly if the table accepts it. -/
theorem exists_ofRecord_iff {r : Record} :
    (∃ i, ofRecord s (List.finRange s.columns.length) r = .ok i) ↔ s.Accepts r := by
  constructor
  · rintro ⟨i, hi⟩
    refine ⟨by simpa using (ofRecord_cases hi).1, fun k v hv => ?_⟩
    obtain ⟨v', w, hv', hw, -⟩ := slot_ofRecord hi k
    cases hv.symm.trans hv'
    exact ⟨w, hw⟩
  · rintro ⟨hlength, hcells⟩
    unfold ofRecord
    rw [if_pos (by rw [hlength, List.length_finRange])]
    exact exists_foldlM_putCell (fun cell hcell => hcells cell.1 cell.2
      (mem_zip_finRange.1 hcell)) (new s)

/-! ### Changes of one row -/

/-- Whether a row is another one but for the content of one slot. -/
def IsReplaced (i : Instance) (k : Fin i.schema.columns.length) (content : Option Value)
    (j : Instance) : Prop :=
  j.schema = i.schema ∧ ∀ l, j.slot l = if l = k then content else i.slot l

theorem isReplaced_iff {i j : Instance} {k : Fin i.schema.columns.length} {content : Option Value} :
    i.IsReplaced k content j ↔ i.replace k content = j := by
  have hslot (l : Nat) : (i.replace k content).slot l = if l = k then content else i.slot l := by
    rw [slot_replace i l content k.isLt, if_congr eq_comm rfl rfl]
  constructor
  · rintro ⟨hschema, hslots⟩
    refine eq_of_slots hschema.symm (slots_eq ?_ fun l _ => ?_)
    · rw [length_slots, length_slots, hschema, schema_replace]
    · rw [hslot, hslots]
  · rintro rfl
    exact ⟨rfl, hslot⟩

/-- A column is set exactly if it is there and takes the value, and no other slot is touched. -/
theorem on_assign_eq_ok_iff {i j : Instance} {column : String} {v : Value} :
    (assign column v).on i = (.ok (), j) ↔
      ∃ k w, i.schema.index column = .ok k ∧ (i.schema.get k).convert v = .ok w ∧
        i.IsReplaced k (some w) j := by
  rw [on_assign, InPlace.atOnce_eq_ok_iff, set]
  simp only [bind_eq_ok, isReplaced_iff]
  constructor
  · rintro ⟨k, hk, w, hw, hj⟩
    exact ⟨k, w, hk, hw, Except.ok.inj hj⟩
  · rintro ⟨k, w, hk, hw, rfl⟩
    exact ⟨k, hk, w, hw, rfl⟩

/-- A column is left without a value exactly if it is there, and no other slot is touched. -/
theorem on_clear_eq_ok_iff {i j : Instance} {column : String} :
    (clear column).on i = (.ok (), j) ↔
      ∃ k, i.schema.index column = .ok k ∧ i.IsReplaced k none j := by
  rw [on_clear, InPlace.atOnce_eq_ok_iff, unset]
  simp only [isReplaced_iff]
  cases i.schema.index column with
  | error e => exact ⟨fun h => (nomatch h), fun ⟨_, h, _⟩ => (nomatch h)⟩
  | ok k =>
    constructor
    · intro h
      exact ⟨k, rfl, Except.ok.inj h⟩
    · rintro ⟨_, h, rfl⟩
      cases h
      rfl

end Instance

/-! ### Insertions -/

namespace InsertQuery

variable {σ : Type} {q after : InsertQuery} {client : Client σ} {state state' : σ}

theorem run_eq_error {e : Error} (h : q.run client state = (.error e, after, state')) :
    after = q := by
  rw [run_eq] at h
  split at h
  · exact (nomatch congrArg Prod.fst h)
  · cases h
    rfl

theorem run_eq_ok_iff {n : Nat} :
    q.run client state = (.ok n, after, state') ↔
      ∃ records, q.records client state = (.ok records, state') ∧ n = records.length ∧
        q.backFill records = .ok after := by
  rw [run_eq, execute]
  obtain ⟨records | records, state''⟩ := q.records client state
  · exact ⟨fun h => (nomatch congrArg Prod.fst h), fun ⟨_, h, _⟩ => (nomatch congrArg Prod.fst h)⟩
  · simp only [Except.bind]
    cases hfill : q.backFill records with
    | error e =>
      refine ⟨fun h => (nomatch congrArg Prod.fst h), ?_⟩
      rintro ⟨_, h, -, hafter⟩
      cases h
      exact (nomatch hfill.symm.trans hafter)
    | ok q' =>
      constructor
      · intro h
        cases h
        exact ⟨records, rfl, rfl, hfill⟩
      · rintro ⟨_, h, rfl, hafter⟩
        cases h
        cases hfill.symm.trans hafter
        rfl

/-- Rows that came back are taken over exactly if the table accepts all of them. -/
theorem exists_backFill_iff {records : List Record} :
    (∃ q', q.backFill records = .ok q') ↔ ∀ r ∈ records, q.schema.Accepts r := by
  simp only [← Instance.exists_ofRecord_iff]
  constructor
  · rintro ⟨q', h⟩ r hr
    obtain ⟨returned, hreturned, -⟩ := bind_eq_ok.1 h
    obtain ⟨i, -, hi⟩ := exists_of_mem_right (mapM_eq_ok_iff.1 hreturned).flip hr
    exact ⟨i, hi⟩
  · intro h
    obtain ⟨returned, hreturned⟩ := exists_mapM_eq_ok h
    exact ⟨_, bind_eq_ok.2 ⟨returned, hreturned, rfl⟩⟩

/-- An insertion succeeds exactly if rows come back and the table accepts all of them. -/
theorem run_isOk_iff :
    (∃ n, (q.run client state).1 = .ok n) ↔
      ∃ records, (q.records client state).1 = .ok records ∧
        ∀ r ∈ records, q.schema.Accepts r := by
  constructor
  · rintro ⟨n, hn⟩
    obtain ⟨records, hrecords, -, hfill⟩ := run_eq_ok_iff.1 (Prod.ext hn rfl)
    exact ⟨records, congrArg Prod.fst hrecords, exists_backFill_iff.1 ⟨_, hfill⟩⟩
  · rintro ⟨records, hrecords, haccepts⟩
    obtain ⟨q', hfill⟩ := exists_backFill_iff.2 haccepts
    exact ⟨records.length,
      congrArg Prod.fst (run_eq_ok_iff.2 ⟨records, Prod.ext hrecords rfl, rfl, hfill⟩)⟩

end InsertQuery

/-- A write that fails leaves every row as it was. An insertion succeeds exactly if rows come back
and the table accepts all of them, and gives their number; setting a column or leaving it without a
value touches no other slot. -/
theorem unchanged_of_failure {σ : Type} (q : InsertQuery) (client : Client σ) (state : σ)
    (i : Instance) (column : String) (v : Value) :
    (∀ e after state', q.run client state = (.error e, after, state') → after = q) ∧
    (∀ n after state', q.run client state = (.ok n, after, state') →
      ∃ records, q.records client state = (.ok records, state') ∧ n = records.length) ∧
    ((∃ n, (q.run client state).1 = .ok n) ↔
      ∃ records, (q.records client state).1 = .ok records ∧
        ∀ r ∈ records, q.schema.Accepts r) ∧
    (∀ e j, (Instance.assign column v).on i = (.error e, j) → j = i) ∧
    (∀ e j, (Instance.clear column).on i = (.error e, j) → j = i) ∧
    (∀ j, (Instance.assign column v).on i = (.ok (), j) ↔
      ∃ k w, i.schema.index column = .ok k ∧ (i.schema.get k).convert v = .ok w ∧
        i.IsReplaced k (some w) j) ∧
    (∀ j, (Instance.clear column).on i = (.ok (), j) ↔
      ∃ k, i.schema.index column = .ok k ∧ i.IsReplaced k none j) := by
  refine ⟨fun _ _ _ => InsertQuery.run_eq_error, fun n after state' h => ?_,
    InsertQuery.run_isOk_iff, fun e j h => ?_, fun e j h => ?_,
    fun _ => Instance.on_assign_eq_ok_iff, fun _ => Instance.on_clear_eq_ok_iff⟩
  · obtain ⟨records, hrecords, hn, -⟩ := InsertQuery.run_eq_ok_iff.1 h
    exact ⟨records, hrecords, hn⟩
  · rw [Instance.on_assign] at h
    exact (InPlace.atOnce_eq_error h).2
  · rw [Instance.on_clear] at h
    exact (InPlace.atOnce_eq_error h).2

/-! ### A record that is refused -/

namespace Refused

/-- The table of the columns. -/
def table : TableName := ⟨⟨"club", by decide, by decide⟩, ⟨"games", by decide, by decide⟩⟩

def key : Column where
  name := ⟨table, ⟨"number", by decide, by decide⟩⟩
  type := .serial
  primaryKey := true
  unique := true
  notNull := true
  default := none
  foreignKey := none

def schema : Schema where
  table := table
  columns := [key]
  table_eq := by decide
  nodup := by decide

/-- A client that numbers the first of two rows and gives no number for the second. -/
def client : Client Unit where
  query _ state := (.ok [[.integer 1], [.text "two"]], state)

/-- The second record is refused, and the first row has not got the number of the first one. -/
theorem unchanged_of_failure_refused : ∃ (q : InsertQuery) (e : Error) (after : InsertQuery),
    Insert.build ⟨schema, [.new schema, .new schema], .doNothing, {}⟩ = .ok q ∧
    q.run client () = (.error e, after, ()) ∧ after.rows = [.new schema, .new schema] := by
  obtain ⟨q, hbuild⟩ : ∃ q,
      Insert.build ⟨schema, [.new schema, .new schema], .doNothing, {}⟩ = .ok q := ⟨_, rfl⟩
  have hrecords : q.records client () = (.ok [[.integer 1], [.text "two"]], ()) := by
    have hsent : q.isNoop = false := by
      cases hbuild
      exact isEmpty_insertStatement schema .doNothing [[.absent], [.absent]]
    rw [Query.records, if_neg (by rw [hsent]; decide)]
    rfl
  obtain ⟨e, after, hrun⟩ : ∃ e after, q.run client () = (.error e, after, ()) := by
    cases hbuild
    unfold InsertQuery.run
    rw [hrecords]
    exact ⟨_, _, rfl⟩
  refine ⟨q, e, after, hbuild, hrun, ?_⟩
  rw [(unchanged_of_failure q client () (.new schema) "number" .null).1 e after () hrun]
  cases hbuild
  rfl

end Refused

end TypedTable
