import TypedTable.InPlace
import TypedTable.Proofs.Instance
/-!
# Changes in place and the states they lead to

Changes in place write slot by slot and take nothing back, so a failure on the way could leave rows
half written. It does not: everything that can fail comes before the first slot that is written, and
every change comes to one new state or to none (`InPlace.atOnce`).

`Instance.on_assign` and `Instance.on_clear` say so for a single row. For an insertion,
`InsertQuery.on_takeOver` shows that the writes of single slots add up to `BackFill.rows`, and
`InsertQuery.run_eq` compares the run in place with `InsertQuery.execute`.
-/

namespace TypedTable

/-! ### Running a change -/

namespace InPlace

variable {σ α β : Type}

theorem on_get_bind (f : σ → InPlace σ α) (s : σ) :
    (getThe σ >>= f : InPlace σ α).on s = (f s).on s := rfl

/-- What can only fail changes nothing. -/
theorem on_lift_bind (x : Except Error α) (f : α → InPlace σ β) (s : σ) :
    (liftM x >>= f : InPlace σ β).on s =
      match x with
      | .ok a => (f a).on s
      | .error e => (.error e, s) := by
  cases x <;> rfl

theorem on_bind_of_ok {x : InPlace σ α} {f : α → InPlace σ β} {s s' : σ} {a : α}
    (h : x.on s = (.ok a, s')) : (x >>= f).on s = (f a).on s' := by
  simp only [on, ExceptT.run_bind, StateT.run_bind] at h ⊢
  rw [h]
  rfl

/-- What a change gives that writes a whole new state at once, or nothing if that fails. -/
def atOnce (s : σ) : Except Error σ → Except Error Unit × σ
  | .ok s' => (.ok (), s')
  | .error e => (.error e, s)

theorem atOnce_eq_ok_iff {s s' : σ} {x : Except Error σ} :
    atOnce s x = (.ok (), s') ↔ x = .ok s' := by
  cases x with
  | error e => exact ⟨fun h => (nomatch congrArg Prod.fst h), fun h => (nomatch h)⟩
  | ok s'' => exact ⟨fun h => congrArg Except.ok (congrArg Prod.snd h), fun h => by cases h; rfl⟩

theorem atOnce_eq_error {s s' : σ} {x : Except Error σ} {e : Error}
    (h : atOnce s x = (.error e, s')) : x = .error e ∧ s' = s := by
  cases x with
  | error e' =>
    cases h
    exact ⟨rfl, rfl⟩
  | ok s'' => exact (nomatch congrArg Prod.fst h)

end InPlace

/-! ### Single rows -/

namespace Instance

variable {i : Instance} {column : String}

/-- Setting a column in place either fails before it writes or leaves the row that `set` gives. -/
theorem on_assign (i : Instance) (column : String) (v : Value) :
    (assign column v).on i = InPlace.atOnce i (i.set column v) := by
  unfold assign set
  rw [InPlace.on_get_bind, InPlace.on_lift_bind]
  cases i.schema.index column with
  | error e => rfl
  | ok k =>
    show (liftM ((i.schema.get k).convert v) >>= _ : InPlace Instance Unit).on i =
      InPlace.atOnce i ((i.schema.get k).convert v >>= fun w => .ok (i.put k w))
    rw [InPlace.on_lift_bind]
    cases (i.schema.get k).convert v <;> rfl

/-- The same for a column that is left without a value. -/
theorem on_clear (i : Instance) (column : String) :
    (clear column).on i = InPlace.atOnce i (i.unset column) := by
  unfold clear unset
  rw [InPlace.on_get_bind, InPlace.on_lift_bind]
  cases i.schema.index column with
  | error e => rfl
  | ok k => rfl

/-- The row with the value of one slot of another row, if that is set. -/
def takeSlot (h i : Instance) (k : Nat) : Instance :=
  match h.slot k with
  | some v => i.put k v
  | none => i

theorem schema_takeSlot (h i : Instance) (k : Nat) : (takeSlot h i k).schema = i.schema := by
  unfold takeSlot
  split <;> rfl

theorem slot_takeSlot (h i : Instance) (k : Nat) {l : Nat} (hl : l < i.schema.columns.length) :
    (takeSlot h i k).slot l = if k = l then (h.slot l).or (i.slot l) else i.slot l := by
  unfold takeSlot
  by_cases hkl : k = l
  · subst hkl
    rw [if_pos rfl]
    cases h.slot k with
    | some v => exact (slot_put i k v hl).trans (if_pos rfl)
    | none => rfl
  · rw [if_neg hkl]
    cases h.slot k with
    | some v => simp only [slot, put, replace, List.getElem?_set_ne hkl]
    | none => rfl

/-- Slots that are taken one by one are those of the other row where it has them set. -/
theorem slot_foldl_takeSlot (h i : Instance) (places : List Nat) {l : Nat}
    (hl : l < i.schema.columns.length) :
    (places.foldl (takeSlot h) i).slot l =
      if l ∈ places then (h.slot l).or (i.slot l) else i.slot l := by
  induction places generalizing i with
  | nil => rfl
  | cons k places ih =>
    rw [List.foldl_cons, ih _ (by rw [schema_takeSlot]; exact hl), slot_takeSlot h i k hl]
    by_cases hkl : k = l
    · subst hkl
      cases h.slot k <;> simp
    · simp [hkl, Ne.symm hkl]

theorem schema_foldl_takeSlot (h i : Instance) (places : List Nat) :
    (places.foldl (takeSlot h) i).schema = i.schema := by
  induction places generalizing i with
  | nil => rfl
  | cons k places ih => rw [List.foldl_cons, ih, schema_takeSlot]

/-- Taking every slot of another row fills the row. -/
theorem foldl_takeSlot (h i : Instance) :
    (List.range h.schema.columns.length).foldl (takeSlot h) i = i.fill h := by
  have hschema := schema_foldl_takeSlot h i (List.range h.schema.columns.length)
  refine eq_of_slots hschema (slots_eq ?_ fun l hl => ?_)
  · rw [length_slots, length_slots, hschema, schema_fill]
  · rw [length_slots, hschema] at hl
    rw [slot_foldl_takeSlot h i _ hl, slot_fill i h hl]
    by_cases hlh : l < h.schema.columns.length
    · rw [if_pos (List.mem_range.2 hlh)]
    · -- Beyond its columns the other row has nothing set.
      have hnone : h.slot l = none := by
        rw [slot, List.getElem?_eq_none (by rw [h.length_slots]; omega)]
        rfl
      rw [if_neg (fun hmem => hlh (List.mem_range.1 hmem)), hnone]
      rfl

end Instance

/-! ### Rows of an insertion -/

namespace InsertQuery

open Instance (takeSlot)

/-- The query with other rows. -/
def withRows (q : InsertQuery) (rows : List Instance) : InsertQuery := { q with rows := rows }

/-- The query with another content of the row with this number. -/
def withRow (q : InsertQuery) (j : Nat) (f : Instance → Instance) : InsertQuery :=
  q.withRows (q.rows.modify j f)

theorem withRow_id (q : InsertQuery) (j : Nat) : q.withRow j id = q := by
  rw [withRow, List.modify_id]
  rfl

theorem withRow_withRow (q : InsertQuery) (j : Nat) (f g : Instance → Instance) :
    (q.withRow j f).withRow j g = q.withRow j (g ∘ f) := by
  simp only [withRow, withRows, List.modify_modify_eq]

/-- The row behind others is changed where it stands. -/
theorem withRow_length {q : InsertQuery} {before after : List Instance} {i : Instance}
    (hrows : q.rows = before ++ i :: after) (f : Instance → Instance) :
    q.withRow before.length f = q.withRows (before ++ [f i] ++ after) := by
  rw [withRow, hrows, List.modify_eq_take_drop, List.take_left, List.drop_left, List.append_assoc]
  rfl

theorem on_copySlot (q : InsertQuery) (h : Instance) (j k : Nat) :
    (copySlot h j k).on q = (.ok (), q.withRow j (takeSlot h · k)) := by
  unfold copySlot takeSlot
  cases h.slot k with
  | some v => rfl
  | none =>
    show (Except.ok (), q) = (Except.ok (), q.withRow j id)
    rw [withRow_id]

theorem on_forM_copySlot (q : InsertQuery) (h : Instance) (j : Nat) (places : List Nat) :
    (places.forM (copySlot h j)).on q =
      (.ok (), q.withRow j fun i => places.foldl (takeSlot h) i) := by
  induction places generalizing q with
  | nil =>
    show (Except.ok (), q) = (Except.ok (), q.withRow j id)
    rw [withRow_id]
  | cons k places ih =>
    show (copySlot h j k >>= fun _ => places.forM (copySlot h j)).on q = _
    rw [InPlace.on_bind_of_ok (on_copySlot q h j k), ih, withRow_withRow]
    rfl

/-- A row that is copied slot by slot fills the row that it is copied into. -/
theorem on_copyRow (q : InsertQuery) (h : Instance) (j : Nat) :
    (copyRow h j).on q = (.ok (), q.withRow j (·.fill h)) := by
  rw [copyRow, on_forM_copySlot]
  simp only [Instance.foldl_takeSlot]

/-- Rows that go together by their order fill each other. -/
theorem on_forM_copyRow (q : InsertQuery) (before : List Instance) {rows returned : List Instance}
    (hrows : q.rows = before ++ rows) (hlength : returned.length = rows.length) :
    ((returned.zipIdx before.length).forM fun (h, j) => copyRow h j).on q =
      (.ok (), q.withRows (before ++ List.zipWith Instance.fill rows returned)) := by
  induction returned generalizing q before rows with
  | nil =>
    cases List.length_eq_zero_iff.1 hlength.symm
    rw [List.zipWith_nil_left, ← hrows]
    rfl
  | cons h returned ih =>
    obtain _ | ⟨i, rows⟩ := rows
    · cases hlength
    · have hstep := ih (q.withRows (before ++ [i.fill h] ++ rows)) (before ++ [i.fill h]) rfl
        (Nat.succ.inj hlength)
      rw [List.length_append, List.length_singleton] at hstep
      rw [List.zipIdx_cons]
      show (copyRow h before.length >>= fun _ =>
        (returned.zipIdx (before.length + 1)).forM fun (h, j) => copyRow h j).on q = _
      rw [InPlace.on_bind_of_ok (on_copyRow q h before.length), withRow_length hrows, hstep,
        List.zipWith_cons_cons, List.append_cons before (i.fill h) (List.zipWith ..)]
      rfl

/-- Going through the rows by their key fills those that `BackFill.fillByKey` fills. -/
theorem on_copyByKey (q : InsertQuery) (h : Instance) (before : List Instance)
    {rows : List Instance} (hrows : q.rows = before ++ rows) :
    (copyByKey h (List.range' before.length rows.length)).on q =
      (.ok (), q.withRows (before ++ BackFill.fillByKey q.schema q.policy rows h)) := by
  induction rows generalizing q before with
  | nil =>
    have hnone : BackFill.fillByKey q.schema q.policy [] h = [] := by cases q.policy <;> rfl
    rw [hnone, ← hrows]
    rfl
  | cons i rows ih =>
    have hi : q.rows[before.length]? = some i := by rw [hrows]; simp
    rw [List.length_cons, List.range'_succ, copyByKey, InPlace.on_get_bind, hi, Option.any_some]
    cases hmatch : BackFill.matchesKey q.schema h i with
    | false =>
      rw [if_neg (by simp)]
      have hstep := ih q (before ++ [i]) (by rw [hrows]; simp)
      rw [List.length_append, List.length_singleton, List.append_assoc] at hstep
      rw [hstep]
      cases q.policy <;> simp [BackFill.fillByKey, BackFill.fillFirst, BackFill.fillAll, hmatch]
    | true =>
      rw [if_pos rfl, InPlace.on_bind_of_ok (on_copyRow q h before.length), withRow_length hrows]
      cases hpolicy : q.policy with
      | doNothing =>
        simp [BackFill.fillByKey, BackFill.fillFirst, hmatch]
        rfl
      | upsert =>
        have hstep := ih (q.withRows (before ++ [i.fill h] ++ rows)) (before ++ [i.fill h]) rfl
        rw [List.length_append, List.length_singleton] at hstep
        rw [hstep]
        simp [withRows, hpolicy, BackFill.fillByKey, BackFill.fillAll, hmatch]

/-- Going through the rows by their key for one row after the other. -/
theorem on_forM_copyByKey (q : InsertQuery) (returned : List Instance) :
    (returned.forM fun h => copyByKey h (List.range q.rows.length)).on q =
      (.ok (), q.withRows (returned.foldl (BackFill.fillByKey q.schema q.policy) q.rows)) := by
  have hloop (rows : List Instance) (hlength : rows.length = q.rows.length) :
      (returned.forM fun h => copyByKey h (List.range q.rows.length)).on (q.withRows rows) =
        (.ok (), q.withRows (returned.foldl (BackFill.fillByKey q.schema q.policy) rows)) := by
    induction returned generalizing rows with
    | nil => rfl
    | cons h returned ih =>
      have hstep := on_copyByKey (q.withRows rows) h [] rfl
      rw [List.length_nil, hlength, ← List.range_eq_range'] at hstep
      show (copyByKey h (List.range q.rows.length) >>= fun _ =>
        returned.forM fun h => copyByKey h (List.range q.rows.length)).on (q.withRows rows) = _
      rw [InPlace.on_bind_of_ok hstep]
      exact ih _ ((BackFill.length_fillByKey ..).trans hlength)
  exact hloop q.rows rfl

/-- The rows that came back are taken over as `backFill` says, or nothing is changed. -/
theorem on_takeOver (q : InsertQuery) (records : List Record) :
    (takeOver records).on q = InPlace.atOnce q (q.backFill records) := by
  have hfill : q.backFill records =
      records.mapM (Instance.ofRecord q.schema (List.finRange q.schema.columns.length)) >>=
        fun returned => .ok (q.withRows (BackFill.rows q.schema q.policy q.rows returned)) := rfl
  rw [hfill, takeOver, InPlace.on_get_bind, InPlace.on_lift_bind]
  cases records.mapM (Instance.ofRecord q.schema (List.finRange q.schema.columns.length)) with
  | error e => rfl
  | ok returned =>
    -- From here on nothing can fail, and the writes add up to those of `BackFill.rows`.
    show _ = (Except.ok (), q.withRows (BackFill.rows q.schema q.policy q.rows returned))
    unfold BackFill.rows
    by_cases hlength : returned.length = q.rows.length
    · simp only [if_pos hlength]
      exact on_forM_copyRow q [] rfl hlength
    · simp only [if_neg hlength]
      by_cases hkeyless : q.schema.keyPositions.isEmpty
      · simp only [if_pos hkeyless]
        rfl
      · simp only [if_neg hkeyless]
        exact on_forM_copyByKey q returned

/-- An insertion that is run in place gives what `execute` gives, and fails without a change. -/
theorem run_eq {σ : Type} (q : InsertQuery) (client : Client σ) (state : σ) :
    q.run client state =
      match q.execute client state with
      | (.ok (n, q'), state') => (.ok n, q', state')
      | (.error e, state') => (.error e, q, state') := by
  unfold run execute
  obtain ⟨records | records, state'⟩ := q.records client state
  · rfl
  · simp only [on_takeOver, Except.bind]
    cases q.backFill records <;> rfl

end InsertQuery

end TypedTable
