import TypedTable.Proofs.Key
/-!
# Which rows of a batch are sent

Of the rows of a batch that are known to have one key only the last is sent, and rows whose key is
not known are all sent (`sends_sent`). Keys are compared by what the computed defaults give there
(`Batch.Entry.compared`), and nothing is said about the values that the rows are written with. A row
joins the batch at its front (`sent_cons`): it decides about itself only, since nothing in front of
a row matters to it.

If all keys are known, and every key is the same as itself, then the rows that are sent have keys of
their own (`pairwise_sent`), and every key of the batch is among them (`exists_sent_of_mem`).
-/

namespace TypedTable.Batch

variable {s : Schema} {batch rest : List Entry} {row : Entry}

/-! ### Rows with their numbers -/

/-- Whether the numbers of rows count up. -/
def Numbered (batch : List Entry) : Prop := batch.Pairwise (·.number < ·.number)

theorem numbered_entries (e : Evaluations) (rows : List Instance) :
    Numbered (entries e rows) := by
  refine List.pairwise_iff_getElem.2 fun n m hn hm hlt => ?_
  simpa only [entries, List.getElem_mapIdx] using hlt

/-- A row of a batch is found under its number. -/
theorem mem_entries {e : Evaluations} {rows : List Instance} :
    row ∈ entries e rows ↔ ∃ i, rows[row.number]? = some i ∧
      row = ⟨i, row.number, e.compared row.number, e.bound row.number⟩ := by
  constructor
  · intro hrow
    obtain ⟨n, hn, rfl⟩ := List.mem_mapIdx.1 hrow
    exact ⟨rows[n], List.getElem?_eq_getElem hn, rfl⟩
  · rintro ⟨i, hi, heq⟩
    obtain ⟨hn, rfl⟩ := List.getElem?_eq_some_iff.1 hi
    exact List.mem_mapIdx.2 ⟨row.number, hn, heq.symm⟩

theorem map_row_entries (e : Evaluations) (rows : List Instance) :
    (entries e rows).map Entry.row = rows :=
  List.ext_getElem (by simp [entries]) fun n _ _ => by simp [entries]

/-- What all rows of a batch have is had by their entries. -/
theorem forall_mem_entries {P : Instance → Prop} {e : Evaluations} {rows : List Instance}
    (h : ∀ i ∈ rows, P i) : ∀ row ∈ entries e rows, P row.row := by
  intro row hrow
  obtain ⟨i, hi, heq⟩ := mem_entries.1 hrow
  rw [heq]
  exact h i (List.mem_of_getElem? hi)

/-- Two rows of a batch with one number are one row. -/
theorem Numbered.eq_of_number_eq (h : Numbered batch) {row row' : Entry} (hrow : row ∈ batch)
    (hrow' : row' ∈ batch) (heq : row.number = row'.number) : row = row' := by
  induction batch with
  | nil => exact absurd hrow List.not_mem_nil
  | cons first rest ih =>
    obtain ⟨hfirst, hrest⟩ := List.pairwise_cons.1 h
    rcases List.mem_cons.1 hrow with rfl | hmem <;> rcases List.mem_cons.1 hrow' with rfl | hmem'
    · rfl
    · exact absurd heq (hfirst row' hmem').ne
    · exact absurd heq (hfirst row hmem).ne'
    · exact ih hrest hmem hmem'

/-! ### Rows with one key -/

/-- Whether two rows are known to have one key, where keys are compared. -/
def SharesKey (s : Schema) (row row' : Entry) : Prop :=
  ∃ key key', keyOf s row = some key ∧ keyOf s row' = some key' ∧ sameKey key key' = true

/-- Whether no row further down a batch is known to have the key of a row. -/
def IsLast (s : Schema) (batch : List Entry) (row : Entry) : Prop :=
  row ∈ batch ∧ ∀ later ∈ batch, row.number < later.number → ¬SharesKey s row later

/-- The rows to be sent of a batch: in the order of the batch, every row that no later one is known
to share its key with. -/
structure Sends (s : Schema) (batch sent : List Entry) : Prop where
  sublist : sent.Sublist batch
  mem_iff (row : Entry) : row ∈ sent ↔ IsLast s batch row

theorem SharesKey.symm {row row' : Entry} (h : SharesKey s row row') : SharesKey s row' row := by
  obtain ⟨key, key', hkey, hkey', hsame⟩ := h
  exact ⟨key', key, hkey', hkey, sameKey_symm hsame⟩

theorem SharesKey.trans {row row' row'' : Entry} (h : SharesKey s row row')
    (h' : SharesKey s row' row'') : SharesKey s row row'' := by
  obtain ⟨key, key', hrow, hrow', hsame⟩ := h
  obtain ⟨key₁, key₂, heq, hrow'', hsame'⟩ := h'
  cases hrow'.symm.trans heq
  exact ⟨key, key₂, hrow, hrow'', sameKey_trans hsame hsame'⟩

/-- A key occurs further down if a row further down shares it. -/
theorem occurs_iff :
    occurs (keyOf s row) (rest.map (keyOf s)) = true ↔ ∃ later ∈ rest, SharesKey s row later := by
  cases hrow : keyOf s row with
  | none =>
    refine ⟨fun h => (nomatch h), ?_⟩
    rintro ⟨later, -, key, key', hkey, -⟩
    cases hrow.symm.trans hkey
  | some key =>
    simp only [occurs, List.any_map, List.any_eq_true, Function.comp, Option.any_eq_true]
    constructor
    · rintro ⟨later, hlater, key', hkey', hsame⟩
      exact ⟨later, hlater, key, key', hrow, hkey', sameKey_symm hsame⟩
    · rintro ⟨later, hlater, key₁, key', hkey, hkey', hsame⟩
      cases hrow.symm.trans hkey
      exact ⟨later, hlater, key', hkey', sameKey_symm hsame⟩

/-- A row at the front of a batch is the last with its key if no row behind it shares it, and does
not matter to the rows behind it. -/
theorem isLast_cons (h : Numbered (row :: rest)) (other : Entry) :
    IsLast s (row :: rest) other ↔
      other = row ∧ (¬∃ later ∈ rest, SharesKey s row later) ∨ IsLast s rest other := by
  have hbehind := (List.pairwise_cons.1 h).1
  constructor
  · rintro ⟨hother, hlast⟩
    rcases List.mem_cons.1 hother with rfl | hother
    · refine .inl ⟨rfl, ?_⟩
      rintro ⟨later, hlater, hshares⟩
      exact hlast later (List.mem_cons_of_mem _ hlater) (hbehind later hlater) hshares
    · exact .inr ⟨hother, fun later hlater => hlast later (List.mem_cons_of_mem _ hlater)⟩
  · rintro (⟨rfl, hnone⟩ | ⟨hother, hlast⟩)
    · refine ⟨List.mem_cons_self, fun later hlater hlt hshares => ?_⟩
      rcases List.mem_cons.1 hlater with rfl | hlater
      · exact absurd hlt (Nat.lt_irrefl _)
      · exact hnone ⟨later, hlater, hshares⟩
    · refine ⟨List.mem_cons_of_mem _ hother, fun later hlater hlt => ?_⟩
      rcases List.mem_cons.1 hlater with rfl | hlater
      · exact absurd hlt (hbehind other hother).asymm
      · exact hlast later hlater hlt

/-! ### Rows that are sent -/

/-- A row at the front of a batch is sent unless a row behind it shares its key. -/
theorem sent_cons (row : Entry) (rest : List Entry) :
    sent s .upsert (row :: rest) =
      (if occurs (keyOf s row) (rest.map (keyOf s)) then [] else [row]) ++ sent s .upsert rest := by
  simp only [sent, omitted, List.map_cons, superseded, List.zip_cons_cons, List.filterMap_cons]
  cases occurs (keyOf s row) (rest.map (keyOf s)) <;> rfl

/-- Without replacement every row is sent. -/
theorem sent_doNothing (batch : List Entry) : sent s .doNothing batch = batch := by
  induction batch with
  | nil => rfl
  | cons row rest ih => exact congrArg (row :: ·) ih

/-- Rows are sent in the order of the batch. -/
theorem sent_sublist (policy : ConflictPolicy) (batch : List Entry) :
    (sent s policy batch).Sublist batch := by
  cases policy with
  | doNothing => rw [sent_doNothing]
  | upsert =>
    induction batch with
    | nil => exact List.Sublist.refl _
    | cons row rest ih =>
      rw [sent_cons]
      split
      · exact ih.cons _
      · exact ih.cons_cons _

/-- What is sent of a batch: of the rows with one known key the last, and every row whose key is not
known. -/
theorem sends_sent (h : Numbered batch) : Sends s batch (sent s .upsert batch) := by
  refine ⟨sent_sublist .upsert batch, fun other => ?_⟩
  induction batch with
  | nil => exact ⟨fun h => absurd h List.not_mem_nil, fun h => absurd h.1 List.not_mem_nil⟩
  | cons row rest ih =>
    rw [sent_cons, List.mem_append, ih (List.pairwise_cons.1 h).2, isLast_cons h, ← occurs_iff]
    refine or_congr ?_ Iff.rfl
    split
    · next hoccurs => simp [hoccurs]
    · next hoccurs => simp [hoccurs]

/-- Rows that are sent have keys of their own. -/
theorem pairwise_sent (s : Schema) (batch : List Entry) :
    (sent s .upsert batch).Pairwise fun row row' => ¬SharesKey s row row' := by
  induction batch with
  | nil => exact .nil
  | cons row rest ih =>
    rw [sent_cons]
    split
    · exact ih
    · next hnew =>
      refine List.pairwise_cons.2 ⟨fun later hlater hshares => hnew (occurs_iff.2 ?_), ih⟩
      exact ⟨later, (sent_sublist .upsert rest).subset hlater, hshares⟩

/-- Every key of a batch is sent, if it is the same as itself. -/
theorem exists_sent_of_mem (hrow : row ∈ batch) (hself : SharesKey s row row) :
    ∃ last ∈ sent s .upsert batch, SharesKey s row last := by
  induction batch generalizing row with
  | nil => exact absurd hrow List.not_mem_nil
  | cons first rest ih =>
    rw [sent_cons]
    -- What is sent for rows further down is sent for the whole batch.
    have hrest : ∀ {row}, (∃ last ∈ sent s .upsert rest, SharesKey s row last) →
        ∃ last ∈ (if occurs (keyOf s first) (rest.map (keyOf s)) then [] else [first]) ++
          sent s .upsert rest, SharesKey s row last := by
      rintro row ⟨last, hlast, hshares⟩
      exact ⟨last, List.mem_append_right _ hlast, hshares⟩
    rcases List.mem_cons.1 hrow with rfl | hrow
    · by_cases hoccurs : occurs (keyOf s row) (rest.map (keyOf s)) = true
      · obtain ⟨later, hlater, hshares⟩ := occurs_iff.1 hoccurs
        obtain ⟨last, hlast, hshares'⟩ := ih hlater (hshares.symm.trans hshares)
        exact hrest ⟨last, hlast, hshares.trans hshares'⟩
      · refine ⟨row, ?_, hself⟩
        rw [if_neg hoccurs]
        exact List.mem_append_left _ List.mem_cons_self
    · exact hrest (ih hrow hself)

end TypedTable.Batch
