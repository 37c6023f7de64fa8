import TypedTable.Proofs.Instance
import TypedTable.Proofs.Key
import TypedTable.Query.Insert.BackFill
/-!
# Which rows are filled by key

A row that comes back is put into the rows that have its key in their slots: into all of them, or
into the first (`IsFilled`). As long as no two rows that come back have the same key, filling one of
them does not change which rows the others fill, so what becomes of a row can be said in terms of
the rows as they were before (`foldl_fillByKey`).
-/

namespace TypedTable

namespace BackFill

variable {s : Schema}

/-- What a row has in the slots of the key. -/
def slotKey (s : Schema) (i : Instance) : List Value :=
  s.keyPositions.map fun (k : Fin s.columns.length) => (i.slot k).getD .null

/-- Whether all slots of the key are set. -/
def HasSlotKey (s : Schema) (i : Instance) : Prop := ∀ k ∈ s.keyPositions, (i.slot k).isSome

/-- A row that comes back: all slots are set, those of the key to values other than null. -/
structure IsReturned (s : Schema) (h : Instance) : Prop where
  length_slots : h.slots.length = s.columns.length
  isSome_slot : ∀ k, k < s.columns.length → (h.slot k).isSome
  key_ne_null : ∀ k ∈ s.keyPositions, h.slot k ≠ some .null

/-- A row has the key of one that came back if all slots of the key are set, to the same values. -/
theorem matchesKey_iff {h i : Instance} (hh : IsReturned s h) :
    matchesKey s h i = true ↔
      HasSlotKey s i ∧ Batch.sameKey (slotKey s i) (slotKey s h) = true := by
  -- The row that comes back has all values of its key, and none of them is null.
  have hslot : ∀ k ∈ s.keyPositions, ∃ v, h.slot k = some v ∧ v.isNull = false := by
    intro k hk
    obtain ⟨v, hv⟩ := Option.isSome_iff_exists.1 (hh.isSome_slot k k.isLt)
    refine ⟨v, hv, ?_⟩
    cases v with
    | null => exact absurd hv (hh.key_ne_null k hk)
    | _ => rfl
  rw [sameKey_iff, slotKey, slotKey, List.forall₂_map_left_iff, List.forall₂_map_right_iff,
    List.forall₂_same, matchesKey, List.all_eq_true, HasSlotKey, ← forall₂_and]
  refine forall₂_congr fun k hk => ?_
  obtain ⟨v, hv, hnull⟩ := hslot k hk
  rw [hv]
  cases i.slot k with
  | none => simp
  | some w => simp [hnull]

/-- A row that is filled from a complete one has the slots of that one. -/
theorem slots_fill {h i : Instance} (hh : IsReturned s h)
    (hi : i.schema.columns.length = s.columns.length) : (i.fill h).slots = h.slots := by
  have hlength : (i.fill h).slots.length = s.columns.length := by
    rw [(i.fill h).length_slots]
    exact hi
  refine Instance.slots_eq (hlength.trans hh.length_slots.symm) fun k hk => ?_
  rw [hlength] at hk
  obtain ⟨v, hv⟩ := Option.isSome_iff_exists.1 (hh.isSome_slot k hk)
  rw [Instance.slot_fill i h (hi ▸ hk), hv]
  rfl

/-! ### One row that comes back -/

/-- Whether a row of a batch is filled from a row that came back. -/
def IsFilled (s : Schema) (policy : ConflictPolicy) (rows : List Instance) (h : Instance)
    (j : Nat) : Prop :=
  (∃ i, rows[j]? = some i ∧ matchesKey s h i = true) ∧
    (policy = .doNothing → ∀ l < j, ∀ i, rows[l]? = some i → matchesKey s h i = false)

theorem isFilled_zero {policy : ConflictPolicy} {h row : Instance} {rest : List Instance} :
    IsFilled s policy (row :: rest) h 0 ↔ matchesKey s h row = true := by
  constructor
  · rintro ⟨⟨i, hi, hmatch⟩, -⟩
    cases hi
    exact hmatch
  · intro hmatch
    exact ⟨⟨row, rfl, hmatch⟩, fun _ l hl => absurd hl (Nat.not_lt_zero l)⟩

/-- Only the first row with the key is filled, so none behind it is. -/
theorem isFilled_succ {h row : Instance} {rest : List Instance} {j : Nat} :
    IsFilled s .doNothing (row :: rest) h (j + 1) ↔
      matchesKey s h row = false ∧ IsFilled s .doNothing rest h j := by
  constructor
  · rintro ⟨hj, hfirst⟩
    refine ⟨hfirst rfl 0 (Nat.zero_lt_succ j) row rfl, hj, fun _ l hl i hi => ?_⟩
    exact hfirst rfl (l + 1) (Nat.succ_lt_succ hl) i hi
  · rintro ⟨hrow, hj, hfirst⟩
    refine ⟨hj, fun _ l hl i hi => ?_⟩
    cases l with
    | zero =>
      cases hi
      exact hrow
    | succ l => exact hfirst rfl l (Nat.lt_of_succ_lt_succ hl) i hi

theorem getElem?_fillFirst (h : Instance) (rows : List Instance) (j : Nat) :
    (IsFilled s .doNothing rows h j →
      (fillFirst s h rows)[j]? = rows[j]?.map (·.fill h)) ∧
    (¬IsFilled s .doNothing rows h j → (fillFirst s h rows)[j]? = rows[j]?) := by
  induction rows generalizing j with
  | nil => exact ⟨fun ⟨⟨_, hi, _⟩, _⟩ => (nomatch hi), fun _ => rfl⟩
  -- The first row with the key stops the search.
  | cons row rest ih =>
    rw [fillFirst]
    cases hrow : matchesKey s h row with
    | true =>
      rw [if_pos rfl]
      cases j with
      | zero => exact ⟨fun _ => rfl, fun hj => absurd (isFilled_zero.2 hrow) hj⟩
      | succ j =>
        refine ⟨fun hj => ?_, fun _ => rfl⟩
        rw [isFilled_succ, hrow] at hj
        exact absurd hj.1 (by decide)
    | false =>
      rw [if_neg (by decide)]
      cases j with
      | zero =>
        refine ⟨fun hj => ?_, fun _ => rfl⟩
        rw [isFilled_zero, hrow] at hj
        exact absurd hj (by decide)
      | succ j =>
        rw [isFilled_succ]
        exact ⟨fun hj => (ih j).1 hj.2, fun hj => (ih j).2 fun hfilled => hj ⟨hrow, hfilled⟩⟩

theorem getElem?_fillAll (h : Instance) (rows : List Instance) (j : Nat) :
    (IsFilled s .upsert rows h j → (fillAll s h rows)[j]? = rows[j]?.map (·.fill h)) ∧
    (¬IsFilled s .upsert rows h j → (fillAll s h rows)[j]? = rows[j]?) := by
  rw [fillAll, List.getElem?_map]
  cases hrow : rows[j]? with
  | none => exact ⟨fun _ => rfl, fun _ => rfl⟩
  | some row =>
    constructor
    · rintro ⟨⟨i, hi, hmatch⟩, -⟩
      rw [hrow] at hi
      cases hi
      simp [hmatch]
    · intro hj
      have hmatch : ¬matchesKey s h row = true := fun hmatch =>
        hj ⟨⟨row, hrow, hmatch⟩, fun hpolicy => (nomatch hpolicy)⟩
      simp [hmatch]

/-- A row that comes back fills the rows that have its key, or the first of them, and leaves all
others alone. -/
theorem getElem?_fillByKey (policy : ConflictPolicy) (h : Instance) (rows : List Instance)
    (j : Nat) :
    (IsFilled s policy rows h j →
      (fillByKey s policy rows h)[j]? = rows[j]?.map (·.fill h)) ∧
    (¬IsFilled s policy rows h j → (fillByKey s policy rows h)[j]? = rows[j]?) :=
  match policy with
  | .doNothing => getElem?_fillFirst h rows j
  | .upsert => getElem?_fillAll h rows j

/-! ### All rows that come back -/

theorem slotKey_congr {i j : Instance} (hslots : i.slots = j.slots) : slotKey s i = slotKey s j := by
  unfold slotKey Instance.slot
  rw [hslots]

/-- Which row is filled depends on which rows match. -/
theorem isFilled_congr {policy : ConflictPolicy} {rows rows' : List Instance} {h : Instance}
    (heq : ∀ l : Nat, rows'[l]?.map (matchesKey s h) = rows[l]?.map (matchesKey s h)) (j : Nat) :
    IsFilled s policy rows' h j ↔ IsFilled s policy rows h j := by
  have hiff : ∀ {rows : List Instance} {l : Nat} {b : Bool},
      (∃ i, rows[l]? = some i ∧ matchesKey s h i = b) ↔
        rows[l]?.map (matchesKey s h) = some b := by
    intro rows l b
    rw [Option.map_eq_some_iff]
  have hfalse : ∀ {rows : List Instance} {l : Nat},
      (∀ i, rows[l]? = some i → matchesKey s h i = false) ↔
        rows[l]?.map (matchesKey s h) ≠ some true := by
    intro rows l
    rw [← not_iff_not, ne_eq, not_not, ← hiff]
    simp
  unfold IsFilled
  simp only [hiff, hfalse, heq]

/-- Filling rows from one that came back does not change which rows match one with another key. -/
theorem map_matchesKey_fillByKey {policy : ConflictPolicy} {rows : List Instance}
    {h h' : Instance} (hh : IsReturned s h) (hh' : IsReturned s h')
    (hkeys : Batch.sameKey (slotKey s h) (slotKey s h') = false)
    (hrows : ∀ i ∈ rows, i.schema.columns.length = s.columns.length) (l : Nat) :
    (fillByKey s policy rows h)[l]?.map (matchesKey s h') = rows[l]?.map (matchesKey s h') := by
  obtain ⟨hfill, hleave⟩ := getElem?_fillByKey (s := s) policy h rows l
  by_cases hl : IsFilled s policy rows h l
  · obtain ⟨i, hi, hmatch⟩ := hl.1
    -- Before, it had the key of the one that fills it; afterwards it is equal to that one.
    have hbefore : matchesKey s h' i = false := by
      rw [Bool.eq_false_iff]
      intro hmatch'
      have hsame := sameKey_trans (sameKey_symm ((matchesKey_iff hh).1 hmatch).2)
        ((matchesKey_iff hh').1 hmatch').2
      rw [hsame] at hkeys
      exact absurd hkeys (by decide)
    have hslots := slots_fill hh (hrows i (List.mem_of_getElem? hi))
    have hafter : matchesKey s h' (i.fill h) = false := by
      rw [Bool.eq_false_iff]
      intro hmatch'
      have hsame := ((matchesKey_iff hh').1 hmatch').2
      rw [slotKey_congr hslots, hkeys] at hsame
      exact absurd hsame (by decide)
    rw [hfill hl, hi]
    simp only [Option.map_some, hbefore, hafter]
  · rw [hleave hl]

theorem length_columns_fillByKey {policy : ConflictPolicy} {rows : List Instance} {h : Instance}
    (hrows : ∀ i ∈ rows, i.schema.columns.length = s.columns.length) :
    ∀ i ∈ fillByKey s policy rows h, i.schema.columns.length = s.columns.length := by
  intro i hi
  obtain ⟨l, hl⟩ := List.mem_iff_getElem?.1 hi
  obtain ⟨hfill, hleave⟩ := getElem?_fillByKey (s := s) policy h rows l
  by_cases hfilled : IsFilled s policy rows h l
  · rw [hfill hfilled] at hl
    obtain ⟨row, hrow, rfl⟩ := Option.map_eq_some_iff.1 hl
    exact hrows row (List.mem_of_getElem? hrow)
  · rw [hleave hfilled] at hl
    exact hrows i (List.mem_of_getElem? hl)

/-- If no two rows that come back have the same key, each of them is found in the rows that it fills
when it is looked at alone, and all other rows are as they were. -/
theorem foldl_fillByKey {policy : ConflictPolicy} {returned rows : List Instance}
    (hreturned : ∀ h ∈ returned, IsReturned s h)
    (hpairwise : returned.Pairwise fun h h' =>
      Batch.sameKey (slotKey s h) (slotKey s h') = false)
    (hrows : ∀ i ∈ rows, i.schema.columns.length = s.columns.length) (j : Nat) :
    (∀ h ∈ returned, IsFilled s policy rows h j →
      ∃ i, (returned.foldl (fillByKey s policy) rows)[j]? = some i ∧ i.slots = h.slots) ∧
    ((∀ h ∈ returned, ¬IsFilled s policy rows h j) →
      (returned.foldl (fillByKey s policy) rows)[j]? = rows[j]?) := by
  -- The rows are taken as they are after each fill, since a fill does not change who matches whom.
  induction returned generalizing rows with
  | nil => exact ⟨fun h hh => absurd hh List.not_mem_nil, fun _ => rfl⟩
  | cons h rest ih =>
    obtain ⟨hh, hrest⟩ := List.forall_mem_cons.1 hreturned
    obtain ⟨hkeys, hpairwise⟩ := List.pairwise_cons.1 hpairwise
    obtain ⟨hfill, hleave⟩ := getElem?_fillByKey (s := s) policy h rows j
    -- The rows that are left to come back fill the same rows as before.
    have hsame : ∀ h' ∈ rest,
        (IsFilled s policy (fillByKey s policy rows h) h' j ↔ IsFilled s policy rows h' j) :=
      fun h' hh' => isFilled_congr
        (map_matchesKey_fillByKey hh (hrest h' hh') (hkeys h' hh') hrows) j
    obtain ⟨hfilled, hleft⟩ := ih hrest hpairwise (length_columns_fillByKey hrows)
    rw [List.foldl_cons]
    constructor
    · intro h' hh' hj
      rcases List.mem_cons.1 hh' with rfl | hh'
      · -- No other row that comes back has the key of this one.
        obtain ⟨i, hi, hmatch⟩ := hj.1
        have hnone : ∀ h'' ∈ rest, ¬IsFilled s policy (fillByKey s policy rows h') h'' j := by
          intro h'' hh'' hj''
          rw [hsame h'' hh''] at hj''
          obtain ⟨⟨i', hi', hmatch'⟩, -⟩ := hj''
          cases hi.symm.trans hi'
          have hkey := sameKey_trans (sameKey_symm ((matchesKey_iff hh).1 hmatch).2)
            ((matchesKey_iff (hrest h'' hh'')).1 hmatch').2
          rw [hkeys h'' hh''] at hkey
          exact absurd hkey (by decide)
        rw [hleft hnone, hfill hj, hi]
        exact ⟨_, rfl, slots_fill hh (hrows i (List.mem_of_getElem? hi))⟩
      · exact hfilled h' hh' ((hsame h' hh').2 hj)
    · intro hnone
      rw [hleft fun h' hh' hj => hnone h' (List.mem_cons_of_mem _ hh') ((hsame h' hh').1 hj)]
      exact hleave (hnone h List.mem_cons_self)

end BackFill

end TypedTable
