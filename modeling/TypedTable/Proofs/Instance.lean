import TypedTable.Instance
import TypedTable.Proofs.Coercion
import TypedTable.Proofs.Schema
/-!
# The slots of instances

An instance is well typed if every slot is unset or holds a value in the form that its column stores
(`Instance.WellTyped`). New instances and those of records are, and setting, unsetting and filling
slots keeps it.

`Instance.Made` describes the instances of a table that can come about: they start with every slot
unset or come from a record, and then slots are set, unset and filled from other instances of the
table. All of them are well typed (`Instance.Made.convert_slot`).

`slot_ofRecord` says what an instance of a record with a cell for every column holds.
-/

namespace TypedTable.Instance

/-! ### Single slots -/

theorem schema_of_set {i j : Instance} {column : String} {v : Value} (h : i.set column v = .ok j) :
    j.schema = i.schema := by
  obtain ⟨k, -, h⟩ := bind_eq_ok.1 h
  obtain ⟨w, -, h⟩ := bind_eq_ok.1 h
  cases h
  rfl

theorem schema_of_unset {i j : Instance} {column : String} (h : i.unset column = .ok j) :
    j.schema = i.schema := by
  obtain ⟨k, -, rfl⟩ := map_eq_ok.1 h
  rfl

theorem slot_replace (i : Instance) {k : Nat} (l : Nat) (content : Option Value)
    (h : k < i.schema.columns.length) :
    (i.replace k content).slot l = if k = l then content else i.slot l := by
  have hk : k < i.slots.length := by rw [i.length_slots]; exact h
  simp only [slot, replace, List.getElem?_set]
  split
  · next hkl =>
    subst hkl
    simp
  · rfl

/-- A filled slot has the value of the other row if that is set. -/
theorem slot_fill (i j : Instance) {k : Nat} (h : k < i.schema.columns.length) :
    (i.fill j).slot k = (j.slot k).or (i.slot k) := by
  have hk : k < i.slots.length := by rw [i.length_slots]; exact h
  simp [slot, fill, List.getElem?_mapIdx, List.getElem?_eq_getElem hk]

/-- Two rows with the same number of slots have the same slots if they have them one by one. -/
theorem slots_eq {i j : Instance} (hlength : i.slots.length = j.slots.length)
    (h : ∀ k, k < i.slots.length → i.slot k = j.slot k) : i.slots = j.slots := by
  refine List.ext_getElem hlength fun k hi hj => ?_
  have hk := h k hi
  simpa [slot, List.getElem?_eq_getElem hi, List.getElem?_eq_getElem hj] using hk

theorem eq_of_slots {i j : Instance} (hschema : i.schema = j.schema) (hslots : i.slots = j.slots) :
    i = j := by
  obtain ⟨s, slots, hi⟩ := i
  obtain ⟨s', slots', hj⟩ := j
  cases hschema
  cases hslots
  rfl

/-! ### Rows from records -/

/-- Puts a value into the slot of a column, in the form that the column stores. -/
def putCell (s : Schema) (i : Instance) (cell : Fin s.columns.length × Value) :
    Except Error Instance :=
  ((s.get cell.1).convert cell.2).map (i.put cell.1)

/-- Cells that are put into a row one after the other: a slot holds the converted value of one of
the cells of its column, or has no cell and is as it was before. -/
theorem slot_foldlM {s : Schema} {cells : List (Fin s.columns.length × Value)} {i j : Instance}
    (hi : i.schema = s) (h : cells.foldlM (putCell s) i = .ok j) :
    j.schema = s ∧ ∀ k : Fin s.columns.length,
      (∃ v w, (k, v) ∈ cells ∧ (s.get k).convert v = .ok w ∧ j.slot k = some w) ∨
        (∀ v, (k, v) ∉ cells) ∧ j.slot k = i.slot k := by
  induction cells generalizing i with
  | nil =>
    cases h
    exact ⟨hi, fun k => .inr ⟨fun _ => List.not_mem_nil, rfl⟩⟩
  | cons cell cells ih =>
    obtain ⟨l, u⟩ := cell
    rw [List.foldlM_cons] at h
    obtain ⟨i', hput, hrest⟩ := bind_eq_ok.1 h
    obtain ⟨w, hw, rfl⟩ := map_eq_ok.1 hput
    obtain ⟨hschema, hslots⟩ := ih (i := i.put l w) hi hrest
    refine ⟨hschema, fun k => ?_⟩
    rcases hslots k with ⟨v, w', hmem, hconvert, hslot⟩ | ⟨hnone, hslot⟩
    · exact .inl ⟨v, w', List.mem_cons_of_mem _ hmem, hconvert, hslot⟩
    · have hl : (l : Nat) < i.schema.columns.length := by rw [hi]; exact l.isLt
      rw [slot_put i k w hl] at hslot
      -- No later cell belongs to the column, so the slot holds this cell or what was there.
      by_cases hlk : l = k
      · subst hlk
        rw [if_pos rfl] at hslot
        exact .inl ⟨u, w, List.mem_cons_self, hw, hslot⟩
      · rw [if_neg fun heq => hlk (Fin.ext heq)] at hslot
        refine .inr ⟨fun v hmem => ?_, hslot⟩
        rcases List.mem_cons.1 hmem with heq | hmem
        · exact hlk (congrArg Prod.fst heq).symm
        · exact hnone v hmem

/-- A row of a record has the converted value of a cell in every slot whose column was asked for,
and all other slots are unset. -/
theorem ofRecord_cases {s : Schema} {columns : List (Fin s.columns.length)} {r : Record}
    {i : Instance} (h : ofRecord s columns r = .ok i) :
    r.length = columns.length ∧ i.schema = s ∧ ∀ k : Fin s.columns.length,
      (∃ v w, (k, v) ∈ columns.zip r ∧ (s.get k).convert v = .ok w ∧ i.slot k = some w) ∨
        (∀ v, (k, v) ∉ columns.zip r) ∧ i.slot k = none := by
  unfold ofRecord at h
  split at h
  · next hlength =>
    obtain ⟨hschema, hslots⟩ := slot_foldlM (show (new s).schema = s from rfl) h
    refine ⟨hlength, hschema, fun k => ?_⟩
    rw [← slot_new s k]
    exact hslots k
  · exact (nomatch h)

/-- The cells of a record belong to the columns by their places. -/
theorem mem_zip_finRange {n : Nat} {r : Record} {k : Fin n} {v : Value} :
    (k, v) ∈ (List.finRange n).zip r ↔ r[(k : Nat)]? = some v := by
  rw [List.mem_iff_getElem?]
  constructor
  · rintro ⟨l, hl⟩
    obtain ⟨hk, hv⟩ := List.getElem?_zip_eq_some.1 hl
    obtain ⟨hlt, hk⟩ := List.getElem?_eq_some_iff.1 hk
    have hlk : l = k := by
      rw [List.getElem_finRange] at hk
      exact congrArg Fin.val hk
    rw [← hlk]
    exact hv
  · intro hv
    refine ⟨k, List.getElem?_zip_eq_some.2 ⟨?_, hv⟩⟩
    rw [List.getElem?_eq_getElem (by simp), List.getElem_finRange]
    rfl

/-- A row of a record with a cell for every column holds all of them, in the form that their columns
store. -/
theorem slot_ofRecord {s : Schema} {r : Record} {i : Instance}
    (h : ofRecord s (List.finRange s.columns.length) r = .ok i) (k : Fin s.columns.length) :
    ∃ v w, r[(k : Nat)]? = some v ∧ (s.get k).convert v = .ok w ∧ i.slot k = some w := by
  obtain ⟨hlength, -, hslots⟩ := ofRecord_cases h
  rw [List.length_finRange] at hlength
  rcases hslots k with ⟨v, w, hmem, hconvert, hslot⟩ | ⟨hnone, -⟩
  · exact ⟨v, w, mem_zip_finRange.1 hmem, hconvert, hslot⟩
  · have hk : (k : Nat) < r.length := by rw [hlength]; exact k.isLt
    exact absurd (mem_zip_finRange.2 (List.getElem?_eq_getElem hk)) (hnone _)

/-! ### Slots in the form of their columns -/

/-- Whether every slot is unset or holds a value in the form that its column stores. -/
def WellTyped (i : Instance) : Prop :=
  ∀ k c v, i.schema.columns[k]? = some c → i.slot k = some v → c.convert v = .ok v

theorem wellTyped_new (s : Schema) : (new s).WellTyped := by
  intro k c v _ hv
  rw [slot_new] at hv
  exact (nomatch hv)

theorem wellTyped_ofRecord {s : Schema} {columns : List (Fin s.columns.length)} {r : Record}
    {i : Instance} (h : ofRecord s columns r = .ok i) : i.WellTyped := by
  obtain ⟨-, hschema, hslots⟩ := ofRecord_cases h
  intro k c v hc hv
  rw [hschema] at hc
  obtain ⟨hk, rfl⟩ := List.getElem?_eq_some_iff.1 hc
  rcases hslots ⟨k, hk⟩ with ⟨u, w, -, hw, hslot⟩ | ⟨-, hslot⟩
  · cases hslot.symm.trans hv
    exact Column.convert_convert hw
  · cases hslot.symm.trans hv

theorem WellTyped.set {i j : Instance} {column : String} {v : Value} (hi : i.WellTyped)
    (h : i.set column v = .ok j) : j.WellTyped := by
  obtain ⟨l, -, h⟩ := bind_eq_ok.1 h
  obtain ⟨w, hw, h⟩ := bind_eq_ok.1 h
  cases h
  intro k c u hc hu
  rw [slot_put i k w l.isLt] at hu
  by_cases hlk : (l : Nat) = k
  · subst hlk
    rw [if_pos rfl] at hu
    cases hu
    obtain rfl := Schema.get_eq_of_getElem? hc
    exact Column.convert_convert hw
  · rw [if_neg hlk] at hu
    exact hi k c u hc hu

theorem WellTyped.unset {i j : Instance} {column : String} (hi : i.WellTyped)
    (h : i.unset column = .ok j) : j.WellTyped := by
  obtain ⟨_, hl, rfl⟩ := map_eq_ok.1 h
  obtain ⟨l, -, hl⟩ := bind_eq_ok.1 hl
  cases hl
  intro k c u hc hu
  rw [slot_replace i k none l.isLt] at hu
  split at hu
  · exact (nomatch hu)
  · exact hi k c u hc hu

/-- A filled row is well typed if the columns store what they are filled with. -/
theorem WellTyped.fill {i j : Instance} (hi : i.WellTyped)
    (hj : ∀ k c v, i.schema.columns[k]? = some c → j.slot k = some v → c.convert v = .ok v) :
    (i.fill j).WellTyped := by
  intro k c v hc hv
  rw [slot_fill i j (List.getElem?_eq_some_iff.1 hc).1] at hv
  rcases Option.or_eq_some_iff.1 hv with hv | ⟨-, hv⟩
  · exact hj k c v hc hv
  · exact hi k c v hc hv

/-! ### Instances that can come about -/

/-- The instances of a table that can come about. -/
inductive Made (s : Schema) : Instance → Prop
  | new : Made s (.new s)
  | set {i j : Instance} {column : String} {v : Value} (h : Made s i)
      (hset : i.set column v = .ok j) : Made s j
  | unset {i j : Instance} {column : String} (h : Made s i) (hunset : i.unset column = .ok j) :
      Made s j
  | ofRecord {columns : List (Fin s.columns.length)} {r : Record} {i : Instance}
      (h : Instance.ofRecord s columns r = .ok i) : Made s i
  | fill {i j : Instance} (h : Made s i) (h' : Made s j) : Made s (i.fill j)

variable {s : Schema} {i : Instance}

theorem Made.schema_eq (h : Made s i) : i.schema = s := by
  induction h with
  | new => rfl
  | set _ hset ih => exact (schema_of_set hset).trans ih
  | unset _ hunset ih => exact (schema_of_unset hunset).trans ih
  | ofRecord h => exact (ofRecord_cases h).2.1
  | fill _ _ ih _ => exact ih

theorem Made.wellTyped (h : Made s i) : i.WellTyped := by
  induction h with
  | new => exact wellTyped_new s
  | set _ hset ih => exact ih.set hset
  | unset _ hunset ih => exact ih.unset hunset
  | ofRecord h => exact wellTyped_ofRecord h
  | fill hi hj ih ih' =>
    refine ih.fill fun k c v hc hv => ih' k c v ?_ hv
    rw [hj.schema_eq, ← hi.schema_eq]
    exact hc

/-- A slot holds a value in the form that its column stores. -/
theorem Made.convert_slot (h : Made s i) {k : Fin s.columns.length} {v : Value}
    (hv : i.slot k = some v) : (s.get k).convert v = .ok v := by
  refine h.wellTyped k (s.get k) v ?_ hv
  rw [h.schema_eq]
  exact List.getElem?_eq_getElem k.isLt

end TypedTable.Instance
