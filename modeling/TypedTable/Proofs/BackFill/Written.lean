import TypedTable.Proofs.BackFill.Matching
import TypedTable.Proofs.Schema
/-!
# Which rows are to be filled

A row of a batch is written with the key that its slots give, or the defaults of the key columns
where slots are unset (`writtenKey`). A computed default counts with what it gives where the row is
written; for a row that is left out any value may be taken. A row that comes back belongs to the
rows of the batch that were written with its key: to all of them if rows are replaced, and otherwise
to the first, since only that one can have been added (`IsEntitled`).

Rows are filled by the key in their slots, though. `holdsReturned_iff` says when this comes to the
same: exactly if every row that a row which came back belongs to has all slots of its key set.
-/

namespace TypedTable

namespace BackFill

/-- The value that is bound for a column, if it can be compared before it is sent. -/
def boundValue (c : Column) (e : Evaluation) (slot : Option Value) : Option Value :=
  (Batch.written c e slot).bind fun v => (c.validate v).toOption.bind Batch.known

/-- The key that a row is written with. -/
def writtenKey (s : Schema) (row : Batch.Entry) : List Value :=
  s.keyPositions.map fun (k : Fin s.columns.length) =>
    (boundValue (s.get k) row.bound (row.row.slot k)).getD .null

/-- Whether the key that a row is written with is known. -/
def IsKnown (s : Schema) (row : Batch.Entry) : Prop :=
  ∀ k ∈ s.keyPositions, (boundValue (s.get k) row.bound (row.row.slot k)).isSome

/-- Whether a row that came back belongs to a row of a batch. -/
def IsEntitled (s : Schema) (policy : ConflictPolicy) (batch : List Batch.Entry) (h : Instance)
    (j : Nat) : Prop :=
  (∃ row, batch[j]? = some row ∧ Batch.sameKey (writtenKey s row) (slotKey s h) = true) ∧
    (policy = .doNothing → ∀ l < j, ∀ row, batch[l]? = some row →
      Batch.sameKey (writtenKey s row) (slotKey s h) = false)

/-- Whether every row holds the values of the row that came back for it, and all others are as they
were. -/
def HoldsReturned (s : Schema) (policy : ConflictPolicy) (batch : List Batch.Entry)
    (returned after : List Instance) : Prop :=
  ∀ j, (∀ h ∈ returned, IsEntitled s policy batch h j →
      ∃ i, after[j]? = some i ∧ i.slots = h.slots) ∧
    ((∀ h ∈ returned, ¬IsEntitled s policy batch h j) →
      after[j]? = batch[j]?.map Batch.Entry.row)

theorem boundValue_eq_some {c : Column} {e : Evaluation} {slot : Option Value} {w : Value}
    (h : boundValue c e slot = some w) :
    ∃ v, Batch.written c e slot = some v ∧ c.validate v = .ok w ∧ w ≠ .null ∧
      ∀ sql, w ≠ .random sql := by
  obtain ⟨v, hv, h⟩ := Option.bind_eq_some_iff.1 h
  obtain ⟨u, hu, hknown⟩ := Option.bind_eq_some_iff.1 h
  have hvalidate : c.validate v = .ok u := by
    cases hc : c.validate v with
    | error e =>
      rw [hc] at hu
      exact (nomatch hu)
    | ok x =>
      rw [hc] at hu
      exact congrArg Except.ok (Option.some.inj hu)
  -- Null and values of the server are the ones that cannot be compared.
  have huw : u = w ∧ u ≠ .null ∧ ∀ sql, u ≠ .random sql := by
    cases u <;> cases hknown <;> exact ⟨rfl, by simp, by simp⟩
  obtain ⟨rfl, hnull, hrandom⟩ := huw
  exact ⟨v, hv, hvalidate, hnull, hrandom⟩

variable {s : Schema}

/-- Where all slots of the key are set, they are what is written: an instance holds values in the
form that its columns store. -/
theorem writtenKey_eq_slotKey {row : Batch.Entry} (hmade : row.row.Made s) (hknown : IsKnown s row)
    (hslots : HasSlotKey s row.row) : writtenKey s row = slotKey s row.row := by
  refine List.map_congr_left fun k hk => ?_
  obtain ⟨v, hv⟩ := Option.isSome_iff_exists.1 (hslots k hk)
  obtain ⟨w, hw⟩ := Option.isSome_iff_exists.1 (hknown k hk)
  obtain ⟨u, hu, hvalidate, hnull, -⟩ := boundValue_eq_some hw
  rw [hv] at hu
  cases hu
  -- Checking brings a value to the form of the column, which the slot has already.
  have hconvert := Column.convert_of_validate hvalidate hnull
  rw [Instance.Made.convert_slot hmade hv] at hconvert
  cases hconvert
  rw [hw, hv]

section Batch

variable {policy : ConflictPolicy} {batch : List Batch.Entry} {returned : List Instance}
  (hmade : ∀ row ∈ batch, row.row.Made s) (hknown : ∀ row ∈ batch, IsKnown s row)

include hmade hknown

/-- A row matches one that came back if it was written with its key and has the key in its slots. -/
theorem matchesKey_iff_writtenKey {h : Instance} {row : Batch.Entry} (hh : IsReturned s h)
    (hrow : row ∈ batch) :
    matchesKey s h row.row = true ↔
      HasSlotKey s row.row ∧ Batch.sameKey (writtenKey s row) (slotKey s h) = true := by
  rw [matchesKey_iff hh]
  refine and_congr_right fun hslots => ?_
  rw [writtenKey_eq_slotKey (hmade row hrow) (hknown row hrow) hslots]

/-- If the rows that a row which came back belongs to have their keys in their slots, these are the
rows that it fills. -/
theorem isFilled_iff_isEntitled {h : Instance} (hh : IsReturned s h)
    (hset : ∀ j row, batch[j]? = some row → IsEntitled s policy batch h j →
      HasSlotKey s row.row) (j : Nat) :
    IsFilled s policy (batch.map Batch.Entry.row) h j ↔ IsEntitled s policy batch h j := by
  unfold IsFilled
  simp only [List.getElem?_map, Option.map_eq_some_iff]
  constructor
  · rintro ⟨⟨_, ⟨row, hrow, rfl⟩, hmatch⟩, hfirst⟩
    have hwritten := ((matchesKey_iff_writtenKey hmade hknown hh
      (List.mem_of_getElem? hrow)).1 hmatch).2
    refine ⟨⟨row, hrow, hwritten⟩, fun hpolicy l hl row' hrow' => ?_⟩
    rw [Bool.eq_false_iff]
    intro hwritten'
    -- The first row that was written with the key would have been filled in place of this one.
    have hexists : ∃ m row, batch[m]? = some row ∧
        Batch.sameKey (writtenKey s row) (slotKey s h) = true := ⟨l, row', hrow', hwritten'⟩
    classical
    obtain ⟨row₀, hrow₀, hwritten₀⟩ := Nat.find_spec hexists
    have hentitled : IsEntitled s policy batch h (Nat.find hexists) := by
      refine ⟨⟨row₀, hrow₀, hwritten₀⟩, fun _ m hm row'' hrow'' => ?_⟩
      rw [Bool.eq_false_iff]
      intro hwritten''
      exact Nat.find_min hexists hm ⟨row'', hrow'', hwritten''⟩
    have hmatch₀ := (matchesKey_iff_writtenKey hmade hknown hh (List.mem_of_getElem? hrow₀)).2
      ⟨hset _ row₀ hrow₀ hentitled, hwritten₀⟩
    have hle : Nat.find hexists ≤ l := Nat.find_min' hexists ⟨row', hrow', hwritten'⟩
    rw [hfirst hpolicy _ (Nat.lt_of_le_of_lt hle hl) _ ⟨row₀, hrow₀, rfl⟩] at hmatch₀
    exact absurd hmatch₀ (by decide)
  · intro hj
    obtain ⟨⟨row, hrow, hwritten⟩, hfirst⟩ := id hj
    have hmem := List.mem_of_getElem? hrow
    refine ⟨⟨row.row, ⟨row, hrow, rfl⟩, ?_⟩, ?_⟩
    · exact (matchesKey_iff_writtenKey hmade hknown hh hmem).2 ⟨hset j row hrow hj, hwritten⟩
    · rintro hpolicy l hl _ ⟨row', hrow', rfl⟩
      rw [Bool.eq_false_iff]
      intro hmatch
      have hwritten' := ((matchesKey_iff_writtenKey hmade hknown hh
        (List.mem_of_getElem? hrow')).1 hmatch).2
      rw [hfirst hpolicy l hl row' hrow'] at hwritten'
      exact absurd hwritten' (by decide)

/-- Rows hold what came back for them exactly if those that something came back for have all slots
of their key set. -/
theorem holdsReturned_iff (hreturned : ∀ h ∈ returned, IsReturned s h)
    (hpairwise : returned.Pairwise fun h h' =>
      Batch.sameKey (slotKey s h) (slotKey s h') = false) :
    HoldsReturned s policy batch returned
        (returned.foldl (fillByKey s policy) (batch.map Batch.Entry.row)) ↔
      ∀ h ∈ returned, ∀ j row, batch[j]? = some row → IsEntitled s policy batch h j →
        HasSlotKey s row.row := by
  have hcolumns : ∀ i ∈ batch.map Batch.Entry.row,
      i.schema.columns.length = s.columns.length := by
    intro i hi
    obtain ⟨row, hrow, rfl⟩ := List.mem_map.1 hi
    rw [(hmade row hrow).schema_eq]
  have hfold := @foldl_fillByKey s policy returned _ hreturned hpairwise hcolumns
  constructor
  · intro hholds h hh j row hrow hentitled k hk
    -- A row that holds what came back for it was filled, and only rows with their key set are.
    obtain ⟨i', hi', hslots⟩ := (hholds j).1 h hh hentitled
    by_contra hunset
    have hi : (batch.map Batch.Entry.row)[j]? = some row.row := by rw [List.getElem?_map, hrow]; rfl
    -- Without its key in its slots the row is not filled, but it holds a complete row.
    have hnone : ∀ h' ∈ returned, ¬IsFilled s policy (batch.map Batch.Entry.row) h' j := by
      rintro h' hh' ⟨⟨i'', hi'', hmatch⟩, -⟩
      cases hi.symm.trans hi''
      exact hunset (((matchesKey_iff (hreturned h' hh')).1 hmatch).1 k hk)
    rw [(hfold j).2 hnone, hi] at hi'
    cases hi'
    apply hunset
    rw [Instance.slot, hslots]
    exact (hreturned h hh).isSome_slot k k.isLt
  · intro hset j
    have hiff : ∀ h ∈ returned, (IsFilled s policy (batch.map Batch.Entry.row) h j ↔
        IsEntitled s policy batch h j) :=
      fun h hh => isFilled_iff_isEntitled hmade hknown (hreturned h hh) (hset h hh) j
    refine ⟨fun h hh hentitled => (hfold j).1 h hh ((hiff h hh).2 hentitled), fun hnone => ?_⟩
    rw [(hfold j).2 fun h hh hfilled => hnone h hh ((hiff h hh).1 hfilled), List.getElem?_map]

end Batch

end BackFill

end TypedTable
