import TypedTable.Proofs.Access.Row
import TypedTable.Proofs.Key
import TypedTable.Proofs.Session.Reachable
import TypedTable.Proofs.Upsert.Batch
/-!
# Places of one declaration in rows of another

An insertion goes through rows by the places of its own table, while the rows may belong to another
declaration of it: their keys are compared before they are sent, their cells are written, and the
rows that come back are told apart by their keys and copied. All of it is written here over bare
rows, with places that are plain numbers.

Rows that fit a declaration have as many slots as it has columns, and this is what the places need.
`endsAs_build` and `endsAs_takeOver` say that an insertion of such rows ends as it does over
instances.
-/

namespace TypedTable

open Access

/-! ### Keys before rows are sent -/

namespace BareRow

/-- What a row is written with at a place, if it is known: the value of its slot, else the default
of the column that the declaration of the query has there. -/
def writtenAt (s : Schema) (e : Evaluation) (r : BareRow) (k : Nat) : Access (Option Value) := do
  match ← r.slot k with
  | some v => pure (some v)
  | none => return (← pick s.columns k).default? e

/-- The key that a row is compared by, as far as it is known. It is not looked further once a part
is not known. -/
def keyAt (s : Schema) (e : Evaluation) (r : BareRow) : List Nat → Access (Option (List Value))
  | [] => pure (some [])
  | k :: places => do
    match (← r.writtenAt s e k).bind Batch.known with
    | none => pure none
    | some v => return (← keyAt s e r places).map (v :: ·)

/-- Whether the key of a row is known and comes again further down. -/
def comesAgain (keys : List (Option (List Value))) (key : Option (List Value)) (row : Nat) :
    Access Bool :=
  match key with
  | none => pure false
  | some key => do
    let later ← dropTo keys (row + 1)
    return later.any fun other => other.any fun other => Batch.sameKey other key

/-- For every key whether it is known and comes again further down. -/
def superseded (keys : List (Option (List Value))) : Access (List Bool) :=
  keys.zipIdx.mapM fun (key, row) => comesAgain keys key row

/-- For every row whether it is left out of the statement. -/
def omitted (s : Schema) (policy : ConflictPolicy) (e : Batch.Evaluations) (rows : List BareRow) :
    Access (List Bool) :=
  match policy with
  | .doNothing => pure (rows.map fun _ => false)
  | .upsert => do
    superseded (← rows.zipIdx.mapM fun (r, row) => r.keyAt s (e.compared row) s.keyPlaces)

/-- The cells of one row. -/
def insertCells (s : Schema) (e : Evaluation) (r : BareRow) (row : Nat) :
    Access (List InsertCell) :=
  s.columns.zipIdx.mapM fun (c, k) => do
    let slot ← r.slot k
    ofResult (InsertCell.ofSlot row c e slot)

/-- The cells of the rows that are not left out. -/
def sentCells (s : Schema) (e : Batch.Evaluations) (omits : List Bool) :
    List (BareRow × Nat) → Access (List (List InsertCell))
  | [] => pure []
  | (r, row) :: rest => do
    if ← pick omits row then sentCells s e omits rest
    else
      let cells ← r.insertCells s (e.bound row) row
      return cells :: (← sentCells s e omits rest)

end BareRow

/-- An insertion that is ready to be run, over bare rows. -/
structure BareInsertion extends Query where
  schema : Schema
  rows : List BareRow
  policy : ConflictPolicy

namespace BareInsertion

/-- What the statement says about keys that are in the table already, which have these columns. -/
def conflict (s : Schema) (keys : List Column) : ConflictPolicy → String
  | .doNothing =>
    if keys.isEmpty then " ON CONFLICT DO NOTHING"
    else " ON CONFLICT (" ++ Text.commas (keys.map (·.ident.sql)) ++ ") DO NOTHING"
  | .upsert =>
    " ON CONFLICT (" ++ Text.commas (keys.map (·.ident.sql)) ++ ") DO UPDATE SET " ++
      Text.commas (s.columns.map fun c => c.ident.sql ++ " = EXCLUDED." ++ c.ident.sql)

/-- The statement that writes the rows. -/
def render (s : Schema) (rows : List BareRow) (policy : ConflictPolicy) (e : Batch.Evaluations) :
    Access Statement :=
  if rows.isEmpty || s.columns.isEmpty then pure .empty
  else do
    let omits ← BareRow.omitted s policy e rows
    let cells ← BareRow.sentCells s e omits rows.zipIdx
    let keys ← s.keyColumns
    return ⟨"INSERT INTO " ++ s.table.sql ++ " (" ++ s.columnList ++ ") VALUES " ++
        Text.commas (cells.map Insert.tuple) ++ conflict s keys policy ++ " RETURNING " ++
        s.columnList,
      cells.flatten.foldl InsertCell.addTo .empty⟩

/-- Checks the request and writes the statement. -/
def build (s : Schema) (rows : List BareRow) (policy : ConflictPolicy) (e : Batch.Evaluations) :
    Access BareInsertion :=
  match rows.find? (!·.isOf s) with
  | some stranger => throw (.insertForeign stranger.schema.table s.table)
  | none =>
    if policy = .upsert ∧ s.keyPlaces.isEmpty then throw (.upsertWithoutKey s.table)
    else do
      let statement ← render s rows policy e
      return ⟨⟨statement, [s.table]⟩, s, rows, policy⟩

end BareInsertion

/-! ### Rows that come back -/

namespace BareRow

/-- Copies the slots that are set in a row that came back. -/
def copySlots (source target : BareRow) : Access BareRow :=
  (List.range source.schema.columns.length).foldlM (fun r k => do
    match ← source.slot k with
    | some v => r.write k (some v)
    | none => pure r) target

/-- Whether a row has the values of a key, which are not null, in its slots. It is not looked
further once a value differs. -/
def hasKey (r : BareRow) : List (Nat × Value) → Access Bool
  | [] => pure true
  | (k, v) :: rest =>
    if v.isNull then pure false
    else do
      match ← r.slot k with
      | some w => if w.same v then r.hasKey rest else pure false
      | none => pure false

/-- Copies a row that came back into the first row with its key. -/
def copyFirst (key : List (Nat × Value)) (source : BareRow) : List BareRow → Access (List BareRow)
  | [] => pure []
  | r :: rest => do
    if ← r.hasKey key then return (← source.copySlots r) :: rest
    else return r :: (← copyFirst key source rest)

/-- Copies a row that came back into every row with its key. -/
def copyAll (key : List (Nat × Value)) (source : BareRow) (rows : List BareRow) :
    Access (List BareRow) :=
  rows.mapM fun r => do
    if ← r.hasKey key then source.copySlots r else pure r

/-- Copies a row that came back into the rows with its key, which is at these places. Every slot of
the row is set, so that it reads as its slots, whatever its columns have for defaults. -/
def copyByKey (policy : ConflictPolicy) (places : List Nat) (rows : List BareRow)
    (source : BareRow) : Access (List BareRow) := do
  let key := places.zip (← places.mapM (source.read fun _ _ => .null))
  match policy with
  | .doNothing => copyFirst key source rows
  | .upsert => copyAll key source rows

/-- Copies the rows that came back into those that were to be written. -/
def copyReturned (s : Schema) (policy : ConflictPolicy) (rows returned : List BareRow) :
    Access (List BareRow) :=
  if returned.length = rows.length then (rows.zip returned).mapM fun e => e.2.copySlots e.1
  else if s.keyPlaces.isEmpty then pure rows
  else returned.foldlM (copyByKey policy s.keyPlaces) rows

end BareRow

/-- Takes over the rows that came back. -/
def BareInsertion.takeOver (q : BareInsertion) (records : List Record) : Access BareInsertion := do
  let returned ← records.mapM (BareRow.ofRecord q.schema (List.range q.schema.columns.length))
  let rows ← BareRow.copyReturned q.schema q.policy q.rows returned
  return { q with rows := rows }

/-! ### Building an insertion -/

namespace Instance

variable {s : Schema} {i : Instance}

theorem lt_of_isOf (h : i.isOf s = true) (k : Fin s.columns.length) :
    (k : Nat) < i.schema.columns.length :=
  length_columns_of_isOf h ▸ k.isLt

theorem endsAs_writtenAt (h : i.isOf s = true) (e : Evaluation) (k : Fin s.columns.length) :
    EndsAs (i.bare.writtenAt s e k) id (.ok (Batch.written (s.get k) e (i.slot k))) := by
  refine (endsAs_slot (lt_of_isOf h k)).bind_ok ?_
  unfold Batch.written
  cases i.slot k with
  | some v => rfl
  | none => exact (Schema.endsAs_column k).bind_ok rfl

theorem endsAs_keyAt (h : i.isOf s = true) (e : Evaluation)
    (positions : List (Fin s.columns.length)) :
    EndsAs (i.bare.keyAt s e (positions.map Fin.val)) id
      (.ok (positions.mapM fun (k : Fin s.columns.length) =>
        (Batch.written (s.get k) e (i.slot k)).bind Batch.known)) := by
  induction positions with
  | nil => rfl
  | cons k positions ih =>
    rw [List.map_cons, BareRow.keyAt, List.mapM_cons]
    refine (endsAs_writtenAt h e k).bind_ok ?_
    show EndsAs (match (Batch.written (s.get k) e (i.slot k)).bind Batch.known with
      | none => pure none
      | some v => return (← i.bare.keyAt s e (positions.map Fin.val)).map (v :: ·)) id _
    cases (Batch.written (s.get k) e (i.slot k)).bind Batch.known with
    | none => rfl
    | some v =>
      refine ih.bind_ok ?_
      cases positions.mapM fun (k : Fin s.columns.length) =>
        (Batch.written (s.get k) e (i.slot k)).bind Batch.known <;> rfl

end Instance

namespace Batch.Entry

variable {s : Schema} {row : Entry}

/-- A row of a batch with its number, without the knowledge of how many slots it has. -/
def bare (row : Entry) : BareRow × Nat := (row.row.bare, row.number)

theorem endsAs_insertCells (h : row.row.isOf s = true) :
    EndsAs (row.row.bare.insertCells s row.bound row.number) id (Insert.cells s row) := by
  have hends : EndsAs (row.row.bare.insertCells s row.bound row.number) (List.map id)
      (Insert.cells s row) := by
    unfold BareRow.insertCells
    rw [Schema.zipIdx_columns]
    exact .mapM fun k _ =>
      (Instance.endsAs_slot (Instance.lt_of_isOf h k)).bind_ok (endsAs_ofResult _)
  rwa [List.map_id_fun] at hends

theorem zipIdx_bare (e : Batch.Evaluations) (rows : List Instance) :
    (rows.map Instance.bare).zipIdx = (Batch.entries e rows).map bare :=
  List.ext_getElem (by simp [Batch.entries]) fun n _ _ => by simp [Batch.entries, bare]

end Batch.Entry

/-- The suffix that a key is looked up in is there. -/
theorem endsAs_comesAgain {keys before rest : List (Option (List Value))}
    {key : Option (List Value)} (hkeys : keys = before ++ key :: rest) :
    EndsAs (BareRow.comesAgain keys key before.length) id (.ok (Batch.occurs key rest)) := by
  cases key with
  | none => rfl
  | some key =>
    have hlength : before.length + 1 ≤ keys.length := by
      rw [hkeys, List.length_append, List.length_cons]
      omega
    have hdrop : keys.drop (before.length + 1) = rest := by
      rw [hkeys]
      simp
    refine (endsAs_dropTo hlength).bind_ok ?_
    rw [hdrop]
    rfl

theorem endsAs_superseded (keys : List (Option (List Value))) :
    EndsAs (BareRow.superseded keys) id (.ok (Batch.superseded keys)) := by
  -- The keys are gone through behind those that were there before.
  have hloop : ∀ (rest before : List (Option (List Value))), keys = before ++ rest →
      EndsAs ((rest.zipIdx before.length).mapM fun (key, row) => BareRow.comesAgain keys key row)
        id (.ok (Batch.superseded rest)) := by
    intro rest
    induction rest with
    | nil => exact fun _ _ => rfl
    | cons key rest ih =>
      intro before hkeys
      have hrest := ih (before ++ [key]) (by rw [hkeys]; simp)
      rw [List.length_append, List.length_singleton] at hrest
      rw [List.zipIdx_cons, List.mapM_cons, Batch.superseded]
      exact (endsAs_comesAgain hkeys).bind_ok (hrest.bind_ok rfl)
  exact hloop keys [] rfl

variable {s : Schema} {rows : List Instance}

theorem endsAs_omitted (policy : ConflictPolicy) (e : Batch.Evaluations)
    (h : ∀ i ∈ rows, i.isOf s = true) :
    EndsAs (BareRow.omitted s policy e (rows.map Instance.bare)) id
      (.ok (Batch.omitted s policy (Batch.entries e rows))) := by
  cases policy with
  | doNothing =>
    have hnone : (rows.map Instance.bare).map (fun _ => false) =
        (Batch.entries e rows).map fun _ => false := by
      simp [Batch.entries]
    rw [BareRow.omitted, Batch.omitted, hnone]
    rfl
  | upsert =>
    have hkeys : EndsAs ((rows.map Instance.bare).zipIdx.mapM fun (r, row) =>
        r.keyAt s (e.compared row) s.keyPlaces) id
        (.ok ((Batch.entries e rows).map (Batch.keyOf s))) := by
      rw [Schema.keyPlaces_eq, Batch.Entry.zipIdx_bare e]
      refine .mapM_ok fun row hrow => ?_
      obtain ⟨i, hi, heq⟩ := Batch.mem_entries.1 hrow
      rw [heq]
      exact Instance.endsAs_keyAt (h i (List.mem_of_getElem? hi)) _ s.keyPositions
    exact hkeys.bind_ok (endsAs_superseded _)

/-- As many rows are sent or left out as there are in the batch. -/
theorem length_omitted (s : Schema) (policy : ConflictPolicy) (batch : List Batch.Entry) :
    (Batch.omitted s policy batch).length = batch.length := by
  have hsuperseded : ∀ keys, (Batch.superseded keys).length = keys.length := by
    intro keys
    induction keys with
    | nil => rfl
    | cons key rest ih => rw [Batch.superseded, List.length_cons, List.length_cons, ih]
  cases policy with
  | doNothing => exact List.length_map ..
  | upsert => rw [Batch.omitted, hsuperseded, List.length_map]

theorem sent_eq_map_filter (s : Schema) (policy : ConflictPolicy) (batch : List Batch.Entry) :
    Batch.sent s policy batch =
      ((batch.zip (Batch.omitted s policy batch)).filter (!·.2)).map Prod.fst := by
  unfold Batch.sent
  generalize batch.zip (Batch.omitted s policy batch) = marked
  induction marked with
  | nil => rfl
  | cons mark marked ih =>
    obtain ⟨row, _ | _⟩ := mark
    · exact congrArg (row :: ·) ih
    · exact ih

theorem endsAs_sentCells (policy : ConflictPolicy) (e : Batch.Evaluations)
    (h : ∀ i ∈ rows, i.isOf s = true) :
    EndsAs (BareRow.sentCells s e (Batch.omitted s policy (Batch.entries e rows))
        (rows.map Instance.bare).zipIdx) id
      ((Batch.sent s policy (Batch.entries e rows)).mapM (Insert.cells s)) := by
  have hlength := length_omitted s policy (Batch.entries e rows)
  rw [sent_eq_map_filter]
  generalize Batch.omitted s policy (Batch.entries e rows) = omits at hlength
  have hentries : ∀ row ∈ Batch.entries e rows,
      row.bound = e.bound row.number ∧ row.row.isOf s = true := by
    intro row hrow
    obtain ⟨i, hi, heq⟩ := Batch.mem_entries.1 hrow
    exact ⟨congrArg Batch.Entry.bound heq, Batch.forall_mem_entries h row hrow⟩
  -- Every row goes with the mark that is found under its number.
  have hloop : ∀ marked : List (Batch.Entry × Bool),
      (∀ mark ∈ marked, mark.1 ∈ Batch.entries e rows ∧ omits[mark.1.number]? = some mark.2) →
      EndsAs (BareRow.sentCells s e omits (marked.map fun mark => mark.1.bare)) id
        (((marked.filter (!·.2)).map Prod.fst).mapM (Insert.cells s)) := by
    intro marked hmarked
    induction marked with
    | nil => rfl
    | cons mark marked ih =>
      obtain ⟨row, out⟩ := mark
      obtain ⟨⟨hrow, hpick⟩, hrest⟩ := List.forall_mem_cons.1 hmarked
      obtain ⟨hbound, hfits⟩ := hentries row hrow
      rw [List.map_cons, Batch.Entry.bare, BareRow.sentCells]
      refine (endsAs_pick hpick).bind_ok ?_
      cases out with
      | true => exact ih hrest
      | false =>
        show EndsAs _ id (List.mapM _ (row :: (marked.filter (!·.2)).map Prod.fst))
        rw [List.mapM_cons, ← hbound]
        exact (Batch.Entry.endsAs_insertCells hfits).bind fun cells _ =>
          (ih hrest).bind fun others _ => rfl
  have hends := hloop ((Batch.entries e rows).zip omits) fun mark hmark => by
    obtain ⟨n, hn, rfl⟩ := List.getElem_of_mem hmark
    rw [List.getElem_zip]
    refine ⟨List.getElem_mem _, ?_⟩
    simp [Batch.entries]
  have hbare : ((Batch.entries e rows).zip omits).map (fun mark => mark.1.bare) =
      (rows.map Instance.bare).zipIdx := by
    rw [Batch.Entry.zipIdx_bare e, ← Function.comp_def Batch.Entry.bare Prod.fst, ← List.map_map,
      List.map_fst_zip hlength.ge]
  rwa [hbare] at hends

/-- The form that a query takes over bare rows. -/
def InsertQuery.bare (q : InsertQuery) : BareInsertion :=
  ⟨q.toQuery, q.schema, q.rows.map Instance.bare, q.policy⟩

theorem conflict_bare (s : Schema) (policy : ConflictPolicy) :
    BareInsertion.conflict s s.primaryKey policy = Insert.conflict s policy := by
  cases policy with
  | upsert => rfl
  | doNothing =>
    have hempty := s.isEmpty_primaryKey
    unfold BareInsertion.conflict Insert.conflict
    dsimp only
    cases hkey : s.hasPrimaryKey with
    | true =>
      have hkeyed : ¬s.primaryKey.isEmpty = true := by simp [hempty, hkey]
      rw [if_neg hkeyed, if_pos rfl, Schema.keyList]
    | false =>
      have hkeyless : s.primaryKey.isEmpty = true := by simp [hempty, hkey]
      rw [if_pos hkeyless, if_neg Bool.false_ne_true]

theorem endsAs_render (policy : ConflictPolicy) (e : Batch.Evaluations)
    (h : ∀ i ∈ rows, i.isOf s = true) :
    EndsAs (BareInsertion.render s (rows.map Instance.bare) policy e) id
      (Insert.render ⟨s, rows, policy, e⟩) := by
  unfold BareInsertion.render Insert.render
  rw [List.isEmpty_map]
  split
  · rfl
  · refine (endsAs_omitted policy e h).bind_ok ((endsAs_sentCells policy e h).bind_map fun cells =>
      s.endsAs_keyColumns.bind_ok ?_)
    dsimp only [id]
    rw [conflict_bare]
    rfl

/-- Whatever rows are to be written, building an insertion goes for places that are there only. -/
theorem endsAs_build (s : Schema) (rows : List Instance) (policy : ConflictPolicy)
    (e : Batch.Evaluations) :
    EndsAs (BareInsertion.build s (rows.map Instance.bare) policy e) InsertQuery.bare
      (Insert.build ⟨s, rows, policy, e⟩) := by
  have hfind : (rows.map Instance.bare).find? (!·.isOf s) =
      (rows.find? (!·.isOf s)).map Instance.bare := List.find?_map ..
  unfold BareInsertion.build Insert.build
  rw [hfind]
  unfold Insert.checkRows
  cases hrows : rows.find? (!·.isOf s) with
  | some stranger => rfl
  | none =>
    have hfits : ∀ i ∈ rows, i.isOf s = true := by simpa using hrows
    rw [Option.map_none, s.isEmpty_keyPlaces]
    unfold Insert.checkPolicy
    dsimp only
    split
    · rfl
    · exact (endsAs_render policy e hfits).bind fun statement _ => rfl

/-! ### Taking over what was written -/

namespace Instance

variable {i h : Instance}

/-- A row with as many columns takes the slots of another one at their places. -/
theorem endsAs_copySlots (hlength : h.schema.columns.length = i.schema.columns.length) :
    EndsAs (h.bare.copySlots i.bare) bare (.ok (i.fill h)) := by
  rw [← foldl_takeSlot]
  refine .foldlM_ok (P := fun j => j.schema = i.schema) (fun k hk j hj => ?_) (fun k _ j hj => ?_)
    rfl
  · have hk : k < h.schema.columns.length := List.mem_range.1 hk
    refine (endsAs_slot hk).bind_ok ?_
    unfold takeSlot
    cases h.slot k with
    | none => rfl
    | some v => exact endsAs_write (by rw [hj, ← hlength]; exact hk) (some v)
  · exact (schema_takeSlot h j k).trans hj

/-- Whether a row that came back has a value in every slot of a declaration. -/
structure IsReturned (s : Schema) (h : Instance) : Prop where
  schema : h.schema = s
  isSome : ∀ k : Fin s.columns.length, (h.slot k).isSome = true

theorem isReturned_of_ofRecord {r : Record}
    (hh : ofRecord s (List.finRange s.columns.length) r = .ok h) : h.IsReturned s := by
  refine ⟨(ofRecord_cases hh).2.1, fun k => ?_⟩
  obtain ⟨_, w, -, -, hslot⟩ := slot_ofRecord hh k
  rw [hslot]
  rfl

/-- The value that a row that came back has at a place. -/
def returnedValue (h : Instance) (k : Nat) : Value := (h.slot k).getD .null

theorem endsAs_read_returned (hh : h.IsReturned s) (e : Evaluation) (k : Fin s.columns.length) :
    EndsAs (h.bare.read e k) id (.ok (h.returnedValue k)) := by
  obtain rfl := hh.schema
  obtain ⟨v, hv⟩ := Option.isSome_iff_exists.1 (hh.isSome k)
  have hread : h.read e k = h.returnedValue k := by rw [read, returnedValue, hv]; rfl
  rw [← hread]
  exact endsAs_read e k

/-- The values of a key are compared at places that are there. -/
theorem endsAs_hasKey (hi : i.isOf s = true) (hh : h.IsReturned s)
    (positions : List (Fin s.columns.length)) :
    EndsAs (i.bare.hasKey (positions.map fun (k : Fin s.columns.length) =>
        ((k : Nat), h.returnedValue k))) id
      (.ok (positions.all fun k =>
        match h.slot k, i.slot k with
        | some v, some w => !v.isNull && w.same v
        | _, _ => false)) := by
  induction positions with
  | nil => rfl
  | cons k positions ih =>
    obtain ⟨v, hv⟩ := Option.isSome_iff_exists.1 (hh.isSome k)
    have hvalue : h.returnedValue k = v := by rw [returnedValue, hv]; rfl
    rw [List.map_cons, BareRow.hasKey, hvalue, List.all_cons, hv]
    cases hnull : v.isNull with
    | true =>
      rw [if_pos rfl]
      cases i.slot k with
      | none => rfl
      | some w => simp only [hnull]; rfl
    | false =>
      rw [if_neg Bool.false_ne_true]
      refine (endsAs_slot (lt_of_isOf hi k)).bind_ok ?_
      cases i.slot k with
      | none => rfl
      | some w =>
        show EndsAs (if w.same v = true then i.bare.hasKey (positions.map
          fun (k : Fin s.columns.length) => ((k : Nat), h.returnedValue k)) else pure false) id
          (.ok (!v.isNull && w.same v && _))
        rw [hnull, Bool.not_false, Bool.true_and]
        cases w.same v with
        | true => exact ih
        | false => rfl

end Instance

section TakeOver

variable {h : Instance}

/-- The places of the key with the values that a row that came back has there. -/
def returnedKey (s : Schema) (h : Instance) : List (Nat × Value) :=
  s.keyPositions.map fun (k : Fin s.columns.length) => ((k : Nat), h.returnedValue k)

theorem endsAs_matchesKey {i : Instance} (hi : i.isOf s = true) (hh : h.IsReturned s) :
    EndsAs (i.bare.hasKey (returnedKey s h)) id (.ok (BackFill.matchesKey s h i)) :=
  Instance.endsAs_hasKey hi hh s.keyPositions

theorem length_columns_of_isReturned {i : Instance} (hi : i.isOf s = true)
    (hh : h.IsReturned s) : h.schema.columns.length = i.schema.columns.length := by
  rw [hh.schema]
  exact Instance.length_columns_of_isOf hi

theorem endsAs_copyFirst (hrows : ∀ i ∈ rows, i.isOf s = true) (hh : h.IsReturned s) :
    EndsAs (BareRow.copyFirst (returnedKey s h) h.bare (rows.map Instance.bare))
      (List.map Instance.bare) (.ok (BackFill.fillFirst s h rows)) := by
  induction rows with
  | nil => rfl
  | cons i rows ih =>
    obtain ⟨hi, hrows⟩ := List.forall_mem_cons.1 hrows
    rw [List.map_cons, BareRow.copyFirst, BackFill.fillFirst]
    refine (endsAs_matchesKey hi hh).bind_ok ?_
    cases BackFill.matchesKey s h i with
    | true => exact (Instance.endsAs_copySlots (length_columns_of_isReturned hi hh)).bind_ok rfl
    | false => exact (ih hrows).bind_ok rfl

theorem endsAs_copyAll (hrows : ∀ i ∈ rows, i.isOf s = true) (hh : h.IsReturned s) :
    EndsAs (BareRow.copyAll (returnedKey s h) h.bare (rows.map Instance.bare))
      (List.map Instance.bare) (.ok (BackFill.fillAll s h rows)) := by
  have hends : EndsAs (BareRow.copyAll (returnedKey s h) h.bare (rows.map Instance.bare)) id
      (.ok (rows.map fun i =>
        (if BackFill.matchesKey s h i then i.fill h else i).bare)) := by
    refine .mapM_ok fun i hi => (endsAs_matchesKey (hrows i hi) hh).bind_ok ?_
    cases BackFill.matchesKey s h i with
    | true => exact Instance.endsAs_copySlots (length_columns_of_isReturned (hrows i hi) hh)
    | false => rfl
  rw [EndsAs, BackFill.fillAll, Except.map, List.map_map]
  exact hends

theorem endsAs_copyByKey (policy : ConflictPolicy) (hrows : ∀ i ∈ rows, i.isOf s = true)
    (hh : h.IsReturned s) :
    EndsAs (BareRow.copyByKey policy s.keyPlaces (rows.map Instance.bare) h.bare)
      (List.map Instance.bare) (.ok (BackFill.fillByKey s policy rows h)) := by
  have hvalues : EndsAs (s.keyPlaces.mapM (h.bare.read fun _ _ => .null)) id
      (.ok (s.keyPositions.map fun (k : Fin s.columns.length) => h.returnedValue k)) := by
    rw [Schema.keyPlaces_eq]
    exact .mapM_ok fun k _ => Instance.endsAs_read_returned hh _ k
  refine hvalues.bind_ok ?_
  have hkey : s.keyPlaces.zip (s.keyPositions.map fun (k : Fin s.columns.length) =>
      h.returnedValue k) = returnedKey s h := by
    rw [Schema.keyPlaces_eq, List.zip_map']
    rfl
  dsimp only [id]
  rw [hkey]
  cases policy with
  | doNothing => exact endsAs_copyFirst hrows hh
  | upsert => exact endsAs_copyAll hrows hh

/-- Rows go together by their order or by their keys. -/
theorem endsAs_copyReturned (policy : ConflictPolicy) {returned : List Instance}
    (hrows : ∀ i ∈ rows, i.isOf s = true) (hreturned : ∀ h ∈ returned, h.IsReturned s) :
    EndsAs (BareRow.copyReturned s policy (rows.map Instance.bare) (returned.map Instance.bare))
      (List.map Instance.bare) (.ok (BackFill.rows s policy rows returned)) := by
  unfold BareRow.copyReturned BackFill.rows
  rw [List.length_map, List.length_map, Schema.keyPlaces_eq, List.isEmpty_map]
  split
  · have hends : EndsAs (((rows.map Instance.bare).zip (returned.map Instance.bare)).mapM
        fun e => e.2.copySlots e.1) id
        (.ok ((rows.zip returned).map fun e => (e.1.fill e.2).bare)) := by
      rw [List.zip_map]
      refine .mapM_ok fun e he => ?_
      obtain ⟨hi, hr⟩ := List.of_mem_zip he
      exact Instance.endsAs_copySlots (length_columns_of_isReturned (hrows _ hi) (hreturned _ hr))
    rw [EndsAs, Except.map, ← List.map_uncurry_zip_eq_zipWith, List.map_map]
    exact hends
  · split
    · rfl
    · rw [← Schema.keyPlaces_eq, List.foldlM_map]
      exact .foldlM_ok (P := fun rows => ∀ i ∈ rows, i.isOf s = true)
        (fun h hh rows hrows => endsAs_copyByKey policy hrows (hreturned h hh))
        (fun _ _ _ hrows => BackFill.forall_mem_fillByKey (P := (·.isOf s = true)) hrows
          fun _ hi => hi) hrows

end TakeOver

namespace InsertQuery

/-- Whether all rows of a query fit its declaration. -/
def Fits (q : InsertQuery) : Prop := ∀ i ∈ q.rows, i.isOf q.schema = true

theorem fits_of_build {q : Insert} {b : InsertQuery} (h : q.build = .ok b) : b.Fits := by
  obtain ⟨hfits, -, statement, -, rfl⟩ := Insert.build_eq_ok_iff.1 h
  exact hfits

/-- Rows that are filled fit as before. -/
theorem Fits.backFill {q after : InsertQuery} (h : q.Fits) {records : List Record}
    (hafter : q.backFill records = .ok after) : after.Fits := by
  obtain ⟨returned, -, hafter⟩ := bind_eq_ok.1 hafter
  cases hafter
  exact BackFill.forall_mem_rows h fun _ _ _ hi => hi

/-- Rows that fit are filled at places that are there. -/
theorem endsAs_takeOver {q : InsertQuery} (h : q.Fits) (records : List Record) :
    EndsAs (q.bare.takeOver records) bare (q.backFill records) := by
  have hreturned : EndsAs
      (records.mapM (BareRow.ofRecord q.schema (List.range q.schema.columns.length)))
      (List.map Instance.bare)
      (records.mapM (Instance.ofRecord q.schema (List.finRange q.schema.columns.length))) := by
    rw [Schema.range_eq_map]
    exact .mapM_self fun r _ => Instance.endsAs_ofRecord q.schema _ r
  refine hreturned.bind fun returned hrecords => ?_
  have hall : ∀ r ∈ returned, r.IsReturned q.schema := fun r hr =>
    let ⟨_, _, hr⟩ := exists_of_mem_right (mapM_eq_ok_iff.1 hrecords) hr
    Instance.isReturned_of_ofRecord hr
  exact (endsAs_copyReturned q.policy h hall).bind_ok rfl

end InsertQuery

end TypedTable
