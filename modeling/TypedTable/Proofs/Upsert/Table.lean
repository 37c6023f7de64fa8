import TypedTable.Proofs.Server
/-!
# Rows that are put into a table one after the other

A row that is put into a table takes the place of the one with its key, so a row that is put before
another one of its key leaves no trace (`Content.put_put_of_sameKey`), and rows of other keys may be
put in either order (`Content.put_put_perm`). Tables that hold the same rows in different orders are
the same table.

From a list of rows that are put one after the other, each row whose key comes again further down
can be left out (`Content.foldl_put_perm`).
-/

namespace TypedTable.Content

variable {s : Schema}

/-! ### One row -/

theorem hasKey_perm {c c' : Content} (h : c.Perm c') (key : List Value) :
    c.hasKey s key = c'.hasKey s key :=
  h.any_eq

theorem hasKey_congr {key key' : List Value} (h : Batch.sameKey key key' = true) (c : Content) :
    c.hasKey s key = c.hasKey s key' := by
  have himp : ∀ {key key' : List Value}, Batch.sameKey key key' = true →
      c.hasKey s key = true → c.hasKey s key' = true := by
    intro key key' h hkey
    obtain ⟨r, hr, hsame⟩ := List.any_eq_true.1 hkey
    exact List.any_eq_true.2 ⟨r, hr, sameKey_trans hsame h⟩
  exact Bool.eq_iff_iff.2 ⟨himp h, himp (sameKey_symm h)⟩

/-- What a row of a table is after another one is put. -/
def replaced (s : Schema) (r old : Record) : Record :=
  if Batch.sameKey (s.keyOf old) (s.keyOf r) then r else old

theorem replaced_of_sameKey {r old : Record}
    (h : Batch.sameKey (s.keyOf old) (s.keyOf r) = true) : replaced s r old = r :=
  if_pos h

theorem replaced_of_not_sameKey {r old : Record}
    (h : ¬Batch.sameKey (s.keyOf old) (s.keyOf r) = true) : replaced s r old = old :=
  if_neg h

theorem put_of_hasKey {c : Content} {r : Record} (h : c.hasKey s (s.keyOf r) = true) :
    c.put s r = c.map (replaced s r) :=
  if_pos h

theorem put_of_not_hasKey {c : Content} {r : Record} (h : ¬c.hasKey s (s.keyOf r) = true) :
    c.put s r = c ++ [r] :=
  if_neg h

/-- A row leaves a table without its key as it is. -/
theorem map_replaced_of_not_hasKey {c : Content} {r : Record}
    (h : ¬c.hasKey s (s.keyOf r) = true) : c.map (replaced s r) = c := by
  have hkeys := hasKey_eq_false.1 (Bool.eq_false_iff.2 h)
  refine (List.map_congr_left fun old hold => ?_).trans (List.map_id c)
  exact replaced_of_not_sameKey (by simp [hkeys old hold])

/-- Puts a row into the same table with its rows in another order. -/
theorem put_perm {c c' : Content} (h : c.Perm c') (r : Record) :
    (c.put s r).Perm (c'.put s r) := by
  unfold put
  rw [hasKey_perm h]
  split
  · exact h.map _
  · exact h.append_right _

theorem foldl_put_congr {c c' : Content} (h : c.Perm c') (rows : List Record) :
    (rows.foldl (put s) c).Perm (rows.foldl (put s) c') := by
  induction rows generalizing c c' with
  | nil => exact h
  | cons r rest ih => exact ih (put_perm h r)

/-! ### Two rows -/

/-- A row that is put before another one of its key leaves no trace. -/
theorem put_put_of_sameKey {a b : Record} (h : Batch.sameKey (s.keyOf a) (s.keyOf b) = true)
    (c : Content) : (c.put s a).put s b = c.put s b := by
  have hkey := hasKey_congr (s := s) h c
  by_cases ha : c.hasKey s (s.keyOf a) = true
  · have hreplaced : ∀ old, replaced s b (replaced s a old) = replaced s b old := by
      intro old
      by_cases hold : Batch.sameKey (s.keyOf old) (s.keyOf a) = true
      · rw [replaced_of_sameKey hold, replaced_of_sameKey h,
          replaced_of_sameKey (sameKey_trans hold h)]
      · rw [replaced_of_not_sameKey hold]
    -- The key is in the table still: a row that the first one did not replace is there as it was.
    have hagain : hasKey s (c.map (replaced s a)) (s.keyOf b) = true := by
      obtain ⟨old, hmem, hold⟩ := List.any_eq_true.1 ha
      refine List.any_eq_true.2 ⟨_, List.mem_map_of_mem hmem, ?_⟩
      rw [replaced_of_sameKey hold]
      exact h
    rw [put_of_hasKey ha, put_of_hasKey hagain, put_of_hasKey (hkey ▸ ha), List.map_map]
    exact List.map_congr_left fun old _ => hreplaced old
  · have hb : ¬c.hasKey s (s.keyOf b) = true := hkey ▸ ha
    have hagain : hasKey s (c ++ [a]) (s.keyOf b) = true :=
      List.any_eq_true.2 ⟨a, List.mem_append_right _ List.mem_cons_self, h⟩
    rw [put_of_not_hasKey ha, put_of_hasKey hagain, put_of_not_hasKey hb, List.map_append,
      map_replaced_of_not_hasKey hb, List.map_singleton, replaced_of_sameKey h]

section Distinct

variable {a b : Record} (h : ¬Batch.sameKey (s.keyOf a) (s.keyOf b) = true)

include h

/-- Rows of different keys never take the place of the same row. -/
theorem replaced_comm (old : Record) :
    replaced s b (replaced s a old) = replaced s a (replaced s b old) := by
  have h' : ¬Batch.sameKey (s.keyOf b) (s.keyOf a) = true := fun hsame => h (sameKey_symm hsame)
  by_cases ha : Batch.sameKey (s.keyOf old) (s.keyOf a) = true
  · have hb : ¬Batch.sameKey (s.keyOf old) (s.keyOf b) = true := fun hb =>
      h (sameKey_trans (sameKey_symm ha) hb)
    rw [replaced_of_sameKey ha, replaced_of_not_sameKey hb, replaced_of_sameKey ha,
      replaced_of_not_sameKey h]
  · rw [replaced_of_not_sameKey ha]
    by_cases hb : Batch.sameKey (s.keyOf old) (s.keyOf b) = true
    · rw [replaced_of_sameKey hb, replaced_of_not_sameKey h']
    · rw [replaced_of_not_sameKey hb, replaced_of_not_sameKey ha]

/-- Whether a key is in a table does not change when a row of another key is put. -/
theorem hasKey_put (c : Content) :
    hasKey s (c.put s a) (s.keyOf b) = c.hasKey s (s.keyOf b) := by
  by_cases ha : c.hasKey s (s.keyOf a) = true
  · rw [put_of_hasKey ha]
    simp only [hasKey, List.any_map]
    congr 1
    funext old
    by_cases hold : Batch.sameKey (s.keyOf old) (s.keyOf a) = true
    · have hb : ¬Batch.sameKey (s.keyOf old) (s.keyOf b) = true := fun hb =>
        h (sameKey_trans (sameKey_symm hold) hb)
      simp [Function.comp, replaced_of_sameKey hold, h, hb]
    · simp [Function.comp, replaced_of_not_sameKey hold]
  · rw [put_of_not_hasKey ha]
    simp [hasKey, h]

/-- Rows of different keys may be put in either order. -/
theorem put_put_perm (c : Content) : ((c.put s a).put s b).Perm ((c.put s b).put s a) := by
  have h' : ¬Batch.sameKey (s.keyOf b) (s.keyOf a) = true := fun hsame => h (sameKey_symm hsame)
  -- Each row finds the table with or without its key, whether the other one is put before or not.
  by_cases ha : c.hasKey s (s.keyOf a) = true
  · have ha' : hasKey s (c.put s b) (s.keyOf a) = true := (hasKey_put h' c).trans ha
    by_cases hb : c.hasKey s (s.keyOf b) = true
    · have hb' : hasKey s (c.put s a) (s.keyOf b) = true := (hasKey_put h c).trans hb
      rw [put_of_hasKey ha', put_of_hasKey hb', put_of_hasKey ha, put_of_hasKey hb, List.map_map,
        List.map_map]
      exact .of_eq (List.map_congr_left fun old _ => replaced_comm h old)
    · have hb' : ¬hasKey s (c.put s a) (s.keyOf b) = true := by rwa [hasKey_put h]
      rw [put_of_hasKey ha', put_of_not_hasKey hb', put_of_hasKey ha, put_of_not_hasKey hb,
        List.map_append, List.map_singleton, replaced_of_not_sameKey h']
  · have ha' : ¬hasKey s (c.put s b) (s.keyOf a) = true := by rwa [hasKey_put h']
    by_cases hb : c.hasKey s (s.keyOf b) = true
    · have hb' : hasKey s (c.put s a) (s.keyOf b) = true := (hasKey_put h c).trans hb
      rw [put_of_not_hasKey ha', put_of_hasKey hb', put_of_not_hasKey ha, put_of_hasKey hb,
        List.map_append, List.map_singleton, replaced_of_not_sameKey h]
    · have hb' : ¬hasKey s (c.put s a) (s.keyOf b) = true := by rwa [hasKey_put h]
      rw [put_of_not_hasKey ha', put_of_not_hasKey hb', put_of_not_hasKey ha,
        put_of_not_hasKey hb, List.append_assoc, List.append_assoc]
      exact (List.Perm.swap b a []).append_left c

end Distinct

/-! ### Any number of rows -/

/-- A row may be left out if its key comes again further down. -/
theorem foldl_put_perm {a b : Record} {rest : List Record} (hb : b ∈ rest)
    (h : Batch.sameKey (s.keyOf a) (s.keyOf b) = true) (c : Content) :
    (rest.foldl (put s) (c.put s a)).Perm (rest.foldl (put s) c) := by
  -- The row moves down the list until it meets the first one of its key.
  induction rest generalizing c with
  | nil => exact absurd hb List.not_mem_nil
  | cons r rest ih =>
    rw [List.foldl_cons, List.foldl_cons]
    by_cases hr : Batch.sameKey (s.keyOf a) (s.keyOf r) = true
    · rw [put_put_of_sameKey hr]
    · have hmem : b ∈ rest := by
        rcases List.mem_cons.1 hb with rfl | hmem
        · exact absurd h hr
        · exact hmem
      exact (foldl_put_congr (put_put_perm hr c) rest).trans (ih hmem (c.put s r))

/-- Rows with keys of their own are put in one statement. -/
theorem putAll_eq_some {touched rows : List Record} (c : Content)
    (htouched : ∀ r ∈ rows, Content.hasKey s touched (s.keyOf r) = false)
    (hpairwise : rows.Pairwise fun r r' => Batch.sameKey (s.keyOf r) (s.keyOf r') = false) :
    c.putAll s touched rows = some (rows.foldl (put s) c) := by
  induction rows generalizing c touched with
  | nil => rfl
  | cons r rest ih =>
    obtain ⟨hr, hrest⟩ := List.forall_mem_cons.1 htouched
    obtain ⟨hkeys, hpairwise⟩ := List.pairwise_cons.1 hpairwise
    rw [putAll, hr, if_neg (by decide), List.foldl_cons]
    refine ih (c.put s r) (fun r' hr' => ?_) hpairwise
    -- The rows that are left have other keys than this one and all before it.
    refine hasKey_eq_false.2 (List.forall_mem_cons.2 ⟨hkeys r' hr', ?_⟩)
    exact hasKey_eq_false.1 (hrest r' hr')

end TypedTable.Content
