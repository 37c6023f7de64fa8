import TypedTable.Proofs.Literals.Declaration
import TypedTable.Proofs.Params
import TypedTable.Proofs.Rendering.Insertion
import TypedTable.Proofs.Upsert.Batch
/-!
# Insertions that differ in literals

Two rows are alike if their slots are set at the same places, to alike values (`Instance.Alike`). If
the defaults that they are written with are alike too (`Batch.Entry.Alike`), their cells have the
same text and names (`sameText_cells`): whether a cell is left to the server, evaluated by it or
bound depends on which slots and defaults are set, and on the SQL text among them.

Which rows of an upsert are sent depends on the keys that rows share. If these are shared by the
same rows in both batches, rows of the same numbers are sent (`forall₂_sent`), so the statements have
the same text and names (`Insert.sameText_of_build`).
-/

namespace TypedTable

/-- Whether two statements have the same text and bind the same names. -/
structure Statement.SameText (s s' : Statement) : Prop where
  sql : s.sql = s'.sql
  names : s.params.names = s'.params.names

/-- Whether two rows of alike tables have their slots set at the same places, to alike values. -/
structure Instance.Alike (i i' : Instance) : Prop where
  schema : i.schema.Alike i'.schema
  slot : ∀ k, SlotAlike (i.slot k) (i'.slot k)

namespace Batch

/-- Whether two rows of batches have the same number, and what they are written with is alike. -/
structure Entry.Alike (s s' : Schema) (row row' : Entry) : Prop where
  slots : row.row.Alike row'.row
  number : row.number = row'.number
  defaults : s.DefaultsAlike s' row.bound row'.bound

/-- Whether in two batches the same rows share keys that are known. -/
def SharesAlike (s s' : Schema) (batch batch' : List Entry) : Prop :=
  (batch.zip batch').Pairwise fun row other =>
    (SharesKey s row.1 other.1 ↔ SharesKey s' row.2 other.2)

end Batch

/-! ### Names of parameters -/

theorem names_insertAll_congr {p : Params} {l l' : List (String × Value)}
    (h : entryNames l = entryNames l') : (p.insertAll l).names = (p.insertAll l').names := by
  refine Params.names_eq_of_mem_iff fun name => ?_
  rw [Params.mem_names_insertAll, Params.mem_names_insertAll, h]

/-- Members that bind the same names one for one do so together. -/
theorem entryNames_flatMap_congr {α β : Type} {f : α → List (String × Value)}
    {g : β → List (String × Value)} {l : List α} {r : List β}
    (h : List.Forall₂ (fun a b => entryNames (f a) = entryNames (g b)) l r) :
    entryNames (l.flatMap f) = entryNames (r.flatMap g) := by
  have hnames := map_eq_of_forall₂ h
  simp only [entryNames, List.map_flatMap] at hnames ⊢
  rw [List.flatMap_def, List.flatMap_def, hnames]

/-! ### Cells -/

/-- Whether two cells have the same text and bind the same names. -/
structure InsertCell.SameText (c c' : InsertCell) : Prop where
  sql : c.sql = c'.sql
  names : entryNames c.bindings = entryNames c'.bindings

/-- Cells of alike slots of one column have the same text and names. -/
theorem sameText_ofSlot {n : Nat} {c c' : Column} {e e' : Evaluation} {slot slot' : Option Value}
    {cell cell' : InsertCell} (hname : c.name = c'.name)
    (hwritten : SlotAlike (Batch.written c e slot) (Batch.written c' e' slot'))
    (h : InsertCell.ofSlot n c e slot = .ok cell)
    (h' : InsertCell.ofSlot n c' e' slot' = .ok cell') : cell.SameText cell' := by
  have hbound : InsertCell.boundName c n = InsertCell.boundName c' n := by
    rw [InsertCell.boundName, InsertCell.boundName, Column.table, Column.table, Column.ident,
      Column.ident, hname]
  obtain ⟨hv, rfl⟩ | ⟨v, hv, hcell⟩ := ofSlot_cases h
  · obtain ⟨-, rfl⟩ | ⟨v', hv', -⟩ := ofSlot_cases h'
    · exact ⟨rfl, rfl⟩
    · rw [hv, hv'] at hwritten
      exact (nomatch hwritten)
  · obtain ⟨hv', -⟩ | ⟨v', hv', hcell'⟩ := ofSlot_cases h'
    · rw [hv, hv'] at hwritten
      exact (nomatch hwritten)
    rw [hv, hv', slotAlike_some] at hwritten
    -- Alike values are both evaluated by the server, from the same text, or both bound.
    obtain ⟨sql, rfl, rfl⟩ | ⟨w, hw, hrandom, rfl⟩ := hcell
    · obtain ⟨sql', rfl, rfl⟩ | ⟨w', hw', hrandom', -⟩ := hcell'
      · cases hwritten
        exact ⟨rfl, rfl⟩
      · have hv' := (Value.alike_iff.1 hwritten sql).1 rfl
        exact absurd ((Value.alike_iff.1 (Column.alike_of_validate hw') sql).2 hv') (hrandom' sql)
    · obtain ⟨sql', rfl, rfl⟩ | ⟨w', -, -, rfl⟩ := hcell'
      · have hv := (Value.alike_iff.1 hwritten sql').2 rfl
        exact absurd ((Value.alike_iff.1 (Column.alike_of_validate hw) sql').2 hv) (hrandom sql')
      · exact ⟨congrArg (":" ++ ·) hbound, congrArg (fun name => [name]) hbound⟩

/-- Alike rows have cells with the same texts and names. -/
theorem sameText_cells {s s' : Schema} (h : s.Alike s') {row row' : Batch.Entry}
    {cells cells' : List InsertCell} (hrow : row.Alike s s' row')
    (hcells : Insert.cells s row = .ok cells) (hcells' : Insert.cells s' row' = .ok cells') :
    List.Forall₂ InsertCell.SameText cells cells' := by
  have hlength := length_of_cells hcells
  have hlength' := length_of_cells hcells'
  refine List.forall₂_iff_get.2 ⟨by rw [hlength, hlength', h.length_eq], fun k hk hk' => ?_⟩
  rw [hlength] at hk
  rw [hlength'] at hk'
  obtain ⟨cell, hget, hcell⟩ := getElem?_cells hcells ⟨k, hk⟩
  obtain ⟨cell', hget', hcell'⟩ := getElem?_cells hcells' ⟨k, hk'⟩
  rw [List.get_eq_getElem, List.get_eq_getElem, (List.getElem?_eq_some_iff.1 hget).2,
    (List.getElem?_eq_some_iff.1 hget').2]
  rw [← hrow.number] at hcell'
  have hdefault := (List.forall₂_iff_get.1 hrow.defaults).2 k hk hk'
  have hwritten := (hrow.slots.slot k).or (((s.get ⟨k, hk⟩).slotAlike_default? row.bound).trans
    (hdefault.trans ((s'.get ⟨k, hk'⟩).slotAlike_default? row'.bound).symm))
  exact sameText_ofSlot (h.name_get hk hk') hwritten hcell hcell'

/-! ### Rows that are sent -/

section Sent

variable {s s' : Schema}

/-- A row shares its key with one further down in both batches, or in neither. -/
theorem occurs_congr {row row' : Batch.Entry} {rest rest' : List Batch.Entry}
    (h : List.Forall₂ (fun later later' =>
      Batch.SharesKey s row later ↔ Batch.SharesKey s' row' later') rest rest') :
    Batch.occurs (Batch.keyOf s row) (rest.map (Batch.keyOf s)) =
      Batch.occurs (Batch.keyOf s' row') (rest'.map (Batch.keyOf s')) := by
  rw [Bool.eq_iff_iff, Batch.occurs_iff, Batch.occurs_iff]
  exact exists_mem_iff_of_forall₂ h

/-- Alike rows are sent of alike batches. -/
theorem forall₂_sent {policy : ConflictPolicy} {batch batch' : List Batch.Entry}
    (hbatch : List.Forall₂ (Batch.Entry.Alike s s') batch batch')
    (hshares : policy = .upsert → Batch.SharesAlike s s' batch batch') :
    List.Forall₂ (Batch.Entry.Alike s s') (Batch.sent s policy batch)
      (Batch.sent s' policy batch') := by
  cases policy with
  | doNothing => rwa [Batch.sent_doNothing, Batch.sent_doNothing]
  | upsert =>
    have hshares := hshares rfl
    induction hbatch with
    | nil => exact .nil
    | @cons row row' rest rest' hrow hrest ih =>
      obtain ⟨hfirst, hpairs⟩ := List.pairwise_cons.1 hshares
      have hoccurs : List.Forall₂ (fun later later' =>
          Batch.SharesKey s row later ↔ Batch.SharesKey s' row' later') rest rest' :=
        List.forall₂_iff_zip.2 ⟨hrest.length_eq, fun hother => hfirst _ hother⟩
      rw [Batch.sent_cons, Batch.sent_cons, occurs_congr hoccurs]
      refine List.rel_append ?_ (ih (fun _ => hpairs) hpairs)
      split
      · exact .nil
      · exact .cons hrow .nil

/-- Alike rows with alike defaults are alike in their batches. -/
theorem forall₂_entries {rows rows' : List Instance} {e e' : Batch.Evaluations}
    (hrows : List.Forall₂ Instance.Alike rows rows')
    (hdefaults : ∀ n < rows.length, s.DefaultsAlike s' (e.bound n) (e'.bound n)) :
    List.Forall₂ (Batch.Entry.Alike s s') (Batch.entries e rows) (Batch.entries e' rows') := by
  obtain ⟨hlength, hget⟩ := List.forall₂_iff_get.1 hrows
  refine List.forall₂_iff_get.2 ⟨by simp [Batch.entries, hlength], fun n hn hn' => ?_⟩
  simp only [Batch.entries, List.length_mapIdx] at hn hn'
  simp only [Batch.entries, List.get_eq_getElem, List.getElem_mapIdx]
  exact ⟨hget n hn hn', rfl, hdefaults n hn⟩

end Sent

/-! ### Statements -/

theorem conflict_congr {s s' : Schema} (h : s.Alike s') (policy : ConflictPolicy) :
    Insert.conflict s policy = Insert.conflict s' policy := by
  have hsets := h.map_eq (f := fun c => c.ident.sql ++ " = EXCLUDED." ++ c.ident.sql) fun _ => rfl
  unfold Insert.conflict
  rw [h.hasPrimaryKey_eq, h.keyList_eq, hsets]

theorem sameText_statement {s s' : Schema} (h : s.Alike s') (policy : ConflictPolicy)
    {rows rows' : List (List InsertCell)}
    (hrows : List.Forall₂ (List.Forall₂ InsertCell.SameText) rows rows') :
    (Insert.statement s policy rows).SameText (Insert.statement s' policy rows') := by
  have htuples : rows.map Insert.tuple = rows'.map Insert.tuple :=
    map_eq_of_forall₂ <| hrows.imp fun cells cells' hcells => by
      rw [Insert.tuple, Insert.tuple, map_eq_of_forall₂ (hcells.imp fun _ _ hcell => hcell.sql)]
  have hsql : (Insert.statement s policy rows).sql = (Insert.statement s' policy rows').sql := by
    have hconflict := conflict_congr h policy
    unfold Insert.statement
    simp only [h.matches.table, h.columnList_eq, hconflict, htuples]
  have hnames : (rows.flatten.foldl InsertCell.addTo .empty).names =
      (rows'.flatten.foldl InsertCell.addTo .empty).names := by
    rw [Params.foldl_eq_insertAll InsertCell.addTo_eq_insertAll,
      Params.foldl_eq_insertAll InsertCell.addTo_eq_insertAll]
    refine names_insertAll_congr (entryNames_flatMap_congr ?_)
    exact (List.rel_flatten hrows).imp fun _ _ hcell => hcell.names
  exact ⟨hsql, hnames⟩

/-- An insertion is about its own table. -/
theorem Insert.tables_of_build {q : Insert} {b : InsertQuery} (h : q.build = .ok b) :
    b.tables = [q.schema.table] := by
  obtain ⟨⟨⟩, -, h⟩ := bind_eq_ok.1 h
  obtain ⟨⟨⟩, -, h⟩ := bind_eq_ok.1 h
  obtain ⟨statement, -, h⟩ := bind_eq_ok.1 h
  cases h
  rfl

/-- Alike insertions that are built have the same text and names. -/
theorem Insert.sameText_of_build {s s' : Schema} (h : s.Alike s') {policy : ConflictPolicy}
    {rows rows' : List Instance} {e e' : Batch.Evaluations}
    (hrows : List.Forall₂ Instance.Alike rows rows')
    (hdefaults : ∀ n < rows.length, s.DefaultsAlike s' (e.bound n) (e'.bound n))
    (hshares : policy = .upsert →
      Batch.SharesAlike s s' (Batch.entries e rows) (Batch.entries e' rows'))
    {b b' : InsertQuery} (hb : Insert.build ⟨s, rows, policy, e⟩ = .ok b)
    (hb' : Insert.build ⟨s', rows', policy, e'⟩ = .ok b') :
    b.statement.SameText b'.statement := by
  obtain ⟨-, hrender, -⟩ := Insert.build_eq_ok hb
  obtain ⟨-, hrender', -⟩ := Insert.build_eq_ok hb'
  have hcolumns : s.columns = [] ↔ s'.columns = [] := by
    rw [← List.length_eq_zero_iff, h.length_eq, List.length_eq_zero_iff]
  have hempty : rows = [] ↔ rows' = [] := by
    rw [← List.length_eq_zero_iff, hrows.length_eq, List.length_eq_zero_iff]
  have hnothing : (rows.isEmpty || s.columns.isEmpty) = (rows'.isEmpty || s'.columns.isEmpty) := by
    rw [Bool.eq_iff_iff]
    simp only [Bool.or_eq_true, List.isEmpty_iff, hempty, hcolumns]
  unfold Insert.render at hrender hrender'
  dsimp only at hrender hrender'
  rw [hnothing] at hrender
  split at hrender
  · next hskip =>
    rw [if_pos hskip] at hrender'
    rw [← Except.ok.inj hrender, ← Except.ok.inj hrender']
    exact ⟨rfl, rfl⟩
  · next hwrite =>
    rw [if_neg hwrite] at hrender'
    obtain ⟨cells, hcells, hstatement⟩ := map_eq_ok.1 hrender
    obtain ⟨cells', hcells', hstatement'⟩ := map_eq_ok.1 hrender'
    rw [← hstatement, ← hstatement']
    have hsent := forall₂_sent (forall₂_entries hrows hdefaults) hshares
    exact sameText_statement h policy (forall₂_of_mapM hsent hcells hcells'
      fun hrow hrow₁ hrow₂ => sameText_cells h hrow hrow₁ hrow₂)

end TypedTable
