import TypedTable.Proofs.BackFill.Execution
import TypedTable.Proofs.Upsert.Batch
/-!
# What a row is stored as

A server that gives the same for a default or SQL text of a column in every row stores a row as one
record, whatever the number of the row in the batch (`StoredAs.renumber`). The record has what the
row is written with, and keys are compared before that: where a default is computed, the key of the
record need not be the one that was compared.

A row that keeps its key (`Batch.Entry.KeepsKey`) is one where both are the same. If such a key is
known, it is the key of the record (`keyOf_of_storedAs`), so rows that are known to share their keys
are stored as records of one key (`sameKey_of_sharesKey`).
-/

namespace TypedTable

variable {s : Schema} {value : Nat → InsertCell → Value}

/-! ### The record of a row -/

/-- Whether a row is stored as a record. -/
def StoredAs (s : Schema) (value : Nat → InsertCell → Value) (row : Batch.Entry) (r : Record) :
    Prop :=
  ∃ cells, Insert.cells s row = .ok cells ∧ storedRow value cells = r

/-- A row is stored as one record. -/
theorem StoredAs.unique {row : Batch.Entry} {r r' : Record} (h : StoredAs s value row r)
    (h' : StoredAs s value row r') : r = r' := by
  obtain ⟨cells, hcells, rfl⟩ := h
  obtain ⟨cells', hcells', rfl⟩ := h'
  cases hcells.symm.trans hcells'
  rfl

/-- The number of a row only goes into the names of its values. -/
theorem map_stored_ofSlot (draw : InsertCell → Value) (n m : Nat) (c : Column) (e : Evaluation)
    (slot : Option Value) :
    (InsertCell.ofSlot n c e slot).map (InsertCell.stored draw) =
      (InsertCell.ofSlot m c e slot).map (InsertCell.stored draw) := by
  unfold InsertCell.ofSlot
  split
  · rfl
  · split <;> rfl

/-- A row is stored as the same record under every number. -/
theorem StoredAs.renumber {row : Batch.Entry} {r : Record} (h : StoredAs s value row r) (n : Nat) :
    StoredAs s value { row with number := n } r := by
  obtain ⟨cells, hcells, rfl⟩ := h
  have hcell : ∀ k : Fin s.columns.length, ∃ cell cell', cells[(k : Nat)]? = some cell ∧
      InsertCell.ofSlot n (s.get k) row.bound (row.row.slot k) = .ok cell' ∧
      cell'.stored (value k) = cell.stored (value k) := by
    intro k
    obtain ⟨cell, hk, hcell⟩ := getElem?_cells hcells k
    have hmap := map_stored_ofSlot (value k) n row.number (s.get k) row.bound (row.row.slot k)
    rw [hcell] at hmap
    obtain ⟨cell', hcell', hstored⟩ := map_eq_ok.1 hmap
    exact ⟨cell, cell', hk, hcell', hstored⟩
  obtain ⟨cells', hcells'⟩ : ∃ cells', Insert.cells s { row with number := n } = .ok cells' :=
    exists_mapM_eq_ok fun k _ =>
      let ⟨_, cell', _, hcell', _⟩ := hcell k
      ⟨cell', hcell'⟩
  refine ⟨cells', hcells', List.ext_getElem? fun k => ?_⟩
  rw [storedRow, storedRow, List.getElem?_mapIdx, List.getElem?_mapIdx]
  by_cases hk : k < s.columns.length
  · obtain ⟨cell, cell', hcell, hcell', hstored⟩ := hcell ⟨k, hk⟩
    obtain ⟨cell'', hget, hofSlot⟩ := getElem?_cells hcells' ⟨k, hk⟩
    cases hofSlot.symm.trans hcell'
    have hcell : cells[k]? = some cell := hcell
    have hget : cells'[k]? = some cell' := hget
    rw [hcell, hget, Option.map_some, Option.map_some, hstored]
  · rw [List.getElem?_eq_none (by rw [length_of_cells hcells']; omega),
      List.getElem?_eq_none (by rw [length_of_cells hcells]; omega)]

/-! ### Keys of records -/

/-- Whether a column is written with what it is compared by. -/
def Batch.Entry.KeepsPart (s : Schema) (row : Batch.Entry) (k : Fin s.columns.length) : Prop :=
  Batch.written (s.get k) row.compared (row.row.slot k) =
    Batch.written (s.get k) row.bound (row.row.slot k)

/-- Whether a row is written with the key that it is compared by. -/
def Batch.Entry.KeepsKey (s : Schema) (row : Batch.Entry) : Prop :=
  ∀ k ∈ s.keyPositions, row.KeepsPart s k

/-- A row keeps its key if every part of the key is set in the row or has no computed default. -/
theorem Batch.Entry.keepsKey_of_forall {row : Batch.Entry}
    (h : ∀ k ∈ s.keyPositions, (row.row.slot k).isSome = true ∨
      ∀ function, (s.get k).default ≠ some (.computed function)) : row.KeepsKey s := by
  intro k hk
  unfold KeepsPart Batch.written
  rcases h k hk with hslot | hdefault
  · obtain ⟨v, hv⟩ := Option.isSome_iff_exists.1 hslot
    rw [hv]
    rfl
  · have hsame : (s.get k).default? row.compared = (s.get k).default? row.bound := by
      unfold Column.default?
      cases hd : (s.get k).default with
      | none => rfl
      | some d =>
        cases d with
        | constant v => rfl
        | computed function => exact absurd hd (hdefault function)
    rw [hsame]

/-- A known value that can be sent is sent as it is: slots and defaults are in the form that their
columns store. -/
theorem boundValue_of_known {i : Instance} (hmade : i.Made s) {n : Nat} {e : Evaluation}
    {cell : InsertCell} {k : Fin s.columns.length} {v : Value}
    (hcell : InsertCell.ofSlot n (s.get k) e (i.slot k) = .ok cell)
    (hv : (Batch.written (s.get k) e (i.slot k)).bind Batch.known = some v) :
    BackFill.boundValue (s.get k) e (i.slot k) = some v ∧ (s.get k).convert v = .ok v := by
  obtain ⟨u, hu, hknown⟩ := Option.bind_eq_some_iff.1 hv
  have huv : u = v ∧ u.isNull = false ∧ ∀ sql, u ≠ .random sql := by
    cases u <;> cases hknown <;> exact ⟨rfl, rfl, by simp⟩
  obtain ⟨rfl, hnull, hrandom⟩ := huv
  obtain ⟨hnone, -⟩ | ⟨u', hu', ⟨sql, rfl, -⟩ | ⟨w, hvalidate, -, -⟩⟩ := ofSlot_cases hcell
  · cases hnone.symm.trans hu
  · cases hu'.symm.trans hu
    exact absurd rfl (hrandom sql)
  · cases hu'.symm.trans hu
    have hconvert : (s.get k).convert u = .ok w := (SqlType.validate_of_not_null hnull).1 hvalidate
    have hw : w = u := by
      rcases Option.or_eq_some_iff.1 hu with hslot | ⟨-, hdefault⟩
      · exact Except.ok.inj (hconvert.symm.trans (hmade.convert_slot hslot))
      · exact Column.convert_default? hdefault hconvert
    subst hw
    refine ⟨?_, hconvert⟩
    rw [BackFill.boundValue, hu, Option.bind_some, hvalidate]
    exact hknown

section Key

variable {row : Batch.Entry} {r : Record} (hmade : row.row.Made s) (hkeeps : row.KeepsKey s)
  (hstored : StoredAs s value row r)

include hmade hkeeps hstored

/-- The parts of a key that a row keeps are bound as they are. -/
theorem boundValue_of_keepsKey {k : Fin s.columns.length} (hk : k ∈ s.keyPositions) {v : Value}
    (hv : (Batch.written (s.get k) row.compared (row.row.slot k)).bind Batch.known = some v) :
    BackFill.boundValue (s.get k) row.bound (row.row.slot k) = some v ∧
      (s.get k).convert v = .ok v := by
  obtain ⟨cells, hcells, -⟩ := hstored
  obtain ⟨cell, -, hcell⟩ := getElem?_cells hcells k
  have hpart : row.KeepsPart s k := hkeeps k hk
  rw [hpart] at hv
  exact boundValue_of_known hmade hcell hv

variable {key : List Value} (hkey : Batch.keyOf s row = some key)

include hkey

/-- The record of a row has the key of the row, if that is known and kept. -/
theorem keyOf_of_storedAs : s.keyOf r = key := by
  have hforall := (List.forall₂_and_left _ _).2 ⟨fun k hk => hk, mapM_eq_some_iff.1 hkey⟩
  refine List.forall₂_eq_eq_eq ▸ List.forall₂_map_left_iff.2 (hforall.imp fun k v hkv => ?_)
  have hbound := (boundValue_of_keepsKey hmade hkeeps hstored hkv.1 hkv.2).1
  obtain ⟨cells, hcells, rfl⟩ := hstored
  rw [getElem?_storedRow hcells hbound, Option.getD_some]

/-- A known key that can be sent is the same as itself. -/
theorem sharesKey_self : Batch.SharesKey s row row := by
  refine ⟨key, key, hkey, hkey, sameKey_self fun v hv => ?_⟩
  obtain ⟨k, hk, hkv⟩ := exists_of_mem_right (mapM_eq_some_iff.1 hkey) hv
  have hconvert := (boundValue_of_keepsKey hmade hkeeps hstored hk hkv).2
  refine Value.same_self fun x hx => ?_
  rw [hx] at hconvert
  exact SqlType.coerce_ne_double (Column.convert_eq_ok.1 hconvert)

end Key

/-- Records of rows have the same key if the rows are known to share theirs and keep it. -/
theorem sameKey_of_sharesKey {row row' : Batch.Entry} {r r' : Record} (hmade : row.row.Made s)
    (hmade' : row'.row.Made s) (hkeeps : row.KeepsKey s) (hkeeps' : row'.KeepsKey s)
    (hr : StoredAs s value row r) (hr' : StoredAs s value row' r')
    (h : Batch.SharesKey s row row') : Batch.sameKey (s.keyOf r) (s.keyOf r') = true := by
  obtain ⟨key, key', hkey, hkey', hsame⟩ := h
  rw [keyOf_of_storedAs hmade hkeeps hr hkey, keyOf_of_storedAs hmade' hkeeps' hr' hkey']
  exact hsame

end TypedTable
