import TypedTable.Proofs.Declaration.Text
import TypedTable.Proofs.NumericText
import TypedTable.Proofs.Server
/-!
# What the declaration of a table enforces

`Declaration.Admits` gives a declaration its meaning in SQL: which rows a table can have at once.
Cells go by the names of their columns, and a null is never the same as another one.

`Schema.createTable_enforces` reads the declaration from the statement that makes a table and
compares what it enforces with the flags of the columns. A column of the primary key is not declared
unique by itself, so it may repeat whenever the key has other columns (`Schema.exists_repeated`).
-/

namespace TypedTable

/-! ### The meaning of a declaration -/

/-- Whether a column of a type can have a value: the value is in the form that the type stores, and
a text is no longer than the type says. -/
structure SqlType.Holds (t : SqlType) (v : Value) : Prop where
  stores : t.Stores v
  length_le : ∀ (l : Length) (s : String), t = .varChar l → v = .text s → s.length ≤ l.size

/-- Whether two cells have the same value, which is not null. -/
def Value.Shares (v w : Value) : Prop := v ≠ .null ∧ v.same w = true

/-- The cell of a row in the column with a name. -/
def Declaration.cell (d : Declaration) (name : Ident) (r : Record) : Value :=
  (r[d.columns.findIdx (·.name = name)]?).getD .null

/-- Whether the constraints of a declaration let a table have these rows at once. What a column
refers to stands in another table, which can be anything here. -/
structure Declaration.Admits (d : Declaration) (rows : List Record) : Prop where
  length_eq : ∀ r ∈ rows, r.length = d.columns.length
  notNull : ∀ c ∈ d.columns, c.notNull = true → ∀ r ∈ rows, d.cell c.name r ≠ .null
  unique : ∀ c ∈ d.columns, c.unique = true →
    rows.Pairwise fun r r' => ¬(d.cell c.name r).Shares (d.cell c.name r')
  key_notNull : ∀ name ∈ d.key, ∀ r ∈ rows, d.cell name r ≠ .null
  key_unique : d.key ≠ [] →
    rows.Pairwise fun r r' => ∃ name ∈ d.key, (d.cell name r).same (d.cell name r') = false

/-- The cell of a row in a column of a table. -/
def Schema.cell (s : Schema) (k : Fin s.columns.length) (r : Record) : Value :=
  (r[(k : Nat)]?).getD .null

/-! ### Two values of every type -/

namespace SqlType

theorem Holds.ne_null {t : SqlType} {v : Value} (h : t.Holds v) : v ≠ .null := by
  rintro rfl
  cases h.stores.form

theorem Holds.same_self {t : SqlType} {v : Value} (h : t.Holds v) : v.same v = true := by
  refine Value.same_self ?_
  rintro x rfl
  cases h.stores.form

theorem holds_of_coerce {t : SqlType} {v : Value} (hv : v.IsGiven) (h : t.coerce v = .ok v)
    (hlength : ∀ (l : Length) (s : String), t = .varChar l → v = .text s → s.length ≤ l.size) :
    t.Holds v :=
  ⟨stores_of_coerce hv h, hlength⟩

/-- A number in the form of its type is one that a column can have, if it is in the range. -/
theorem holds_of_includes {t : SqlType} {v : Value} {d : Decimal} (ht : t.range?.isSome = true)
    (hd : v.decimal? = some d) (hstore : t.store d = d) (hpack : t.pack d = v)
    (h : t.Includes d.value) : t.Holds v := by
  refine holds_of_coerce (isGiven_of_decimal? hd) (coerce_eq_self ht hd hstore hpack h) ?_
  rintro l s rfl
  cases ht

theorem value_greatest_pos (p : Precision) : 0 < p.greatest.value := by
  have hdigits : (1 : ℚ) < 10 ^ p.digits :=
    one_lt_pow₀ (by norm_num) (Nat.pos_iff_ne_zero.1 p.digits_mem.1)
  rw [p.value_greatest, greatest_eq]
  exact div_pos (by linarith) (by positivity)

theorem includes_greatest (p : Precision) : (numeric p).Includes p.greatest.value := by
  rw [includes_numeric_iff, abs_of_pos (value_greatest_pos p), p.value_greatest, greatest_eq]

theorem exists_dates : ∃ d d' : Date, (Value.date d).same (.date d') = false :=
  ⟨⟨2000, 1, 1, by decide, by decide, by decide⟩, ⟨2000, 1, 2, by decide, by decide, by decide⟩,
    by decide⟩

theorem exists_timestamps :
    ∃ t t' : Timestamp, (Value.timestamp t).same (.timestamp t') = false :=
  ⟨⟨⟨2000, 1, 1, by decide, by decide, by decide⟩, .midnight, 0, by decide, by decide⟩,
    ⟨⟨2000, 1, 2, by decide, by decide, by decide⟩, .midnight, 0, by decide, by decide⟩,
    by decide⟩

/-- Every type has two values that are not the same. -/
theorem exists_holds (t : SqlType) : ∃ v w, t.Holds v ∧ t.Holds w ∧ v.same w = false := by
  have hfixed : ∀ v : Value, t.coerce v = .ok v → v.isNull = false → v.random? = none →
      v.text? = none → t.Holds v := by
    intro v hv hnull hrandom htext
    refine holds_of_coerce ⟨?_, ?_⟩ hv ?_
    · rintro rfl
      cases hnull
    · rintro sql rfl
      cases hrandom
    · rintro l s - rfl
      cases htext
  have hshort : ∀ s : String, s.length ≤ 1 → t.coerce (.text s) = .ok (.text s) →
      t.Holds (.text s) := by
    intro s hs h
    refine holds_of_coerce ⟨Value.noConfusion, fun _ => Value.noConfusion⟩ h ?_
    rintro l _ - ⟨⟩
    exact hs.trans l.size_pos
  cases t with
  | boolean =>
    exact ⟨.bool false, .bool true, hfixed _ rfl rfl rfl rfl, hfixed _ rfl rfl rfl rfl, rfl⟩
  | smallInt | smallSerial =>
    exact ⟨.smallInt 0, .smallInt 1, hfixed _ (by decide) rfl rfl rfl,
      hfixed _ (by decide) rfl rfl rfl, by decide⟩
  | integer | serial =>
    exact ⟨.integer 0, .integer 1, hfixed _ (by decide) rfl rfl rfl,
      hfixed _ (by decide) rfl rfl rfl, by decide⟩
  | numeric p =>
    have hvalue : Decimal.zero.value = 0 := by simp [Decimal.value, Decimal.signed, Decimal.zero]
    have hzero : (numeric p).Holds (.numeric .zero) :=
      holds_of_includes rfl rfl (store_of_scale_le (Nat.zero_le _)) rfl
        (hvalue ▸ (numeric p).includes_zero)
    have hgreatest : (numeric p).Holds (.numeric p.greatest) :=
      holds_of_includes rfl rfl (store_of_scale_le (Nat.le_refl p.scale)) rfl (includes_greatest p)
    refine ⟨_, _, hzero, hgreatest, Bool.eq_false_iff.2 fun hsame => ?_⟩
    have heq := Decimal.same_iff_value.1 hsame
    rw [hvalue] at heq
    exact (value_greatest_pos p).ne heq
  | date =>
    obtain ⟨d, d', hdiffer⟩ := exists_dates
    exact ⟨_, _, hfixed _ rfl rfl rfl rfl, hfixed _ rfl rfl rfl rfl, hdiffer⟩
  | timestampTz =>
    obtain ⟨t, t', hdiffer⟩ := exists_timestamps
    exact ⟨_, _, hfixed _ rfl rfl rfl rfl, hfixed _ rfl rfl rfl rfl, hdiffer⟩
  | varChar l | text =>
    exact ⟨.text "", .text "a", hshort _ (by decide) rfl, hshort _ (by decide) rfl, by decide⟩

end SqlType

theorem Column.declaration_name (c : Column) : c.declaration.name = c.ident := rfl

/-! ### Cells of a declared table -/

namespace Schema

variable {s : Schema} {rows : List Record} {k : Fin s.columns.length}

theorem declaration_get (s : Schema) (k : Fin s.columns.length) :
    (s.get k).declaration ∈ s.declaration.columns :=
  List.mem_map_of_mem (List.get_mem s.columns k)

theorem forall_mem_columns {P : ColumnDeclaration → Prop} :
    (∀ c ∈ s.declaration.columns, P c) ↔ ∀ k, P (s.get k).declaration := by
  refine ⟨fun h k => h _ (s.declaration_get k), fun h c hc => ?_⟩
  obtain ⟨column, hcolumn, rfl⟩ := List.mem_map.1 hc
  obtain ⟨k, rfl⟩ := List.get_of_mem hcolumn
  exact h k

theorem mem_primaryKey_iff {c : Column} :
    c ∈ s.primaryKey ↔ ∃ k, (s.get k).primaryKey = true ∧ s.get k = c := by
  rw [primaryKey, List.mem_filter]
  constructor
  · rintro ⟨hc, hkey⟩
    obtain ⟨k, rfl⟩ := List.get_of_mem hc
    exact ⟨k, hkey, rfl⟩
  · rintro ⟨k, hkey, rfl⟩
    exact ⟨List.get_mem s.columns k, hkey⟩

theorem mem_key_iff {name : Ident} :
    name ∈ s.declaration.key ↔ ∃ k, (s.get k).primaryKey = true ∧ (s.get k).ident = name := by
  show name ∈ s.primaryKey.map Column.ident ↔ _
  simp only [List.mem_map, mem_primaryKey_iff]
  constructor
  · rintro ⟨_, ⟨k, hkey, rfl⟩, rfl⟩
    exact ⟨k, hkey, rfl⟩
  · rintro ⟨k, hkey, rfl⟩
    exact ⟨_, ⟨k, hkey, rfl⟩, rfl⟩

/-- Cells that are found by the name of a column stand at its place. -/
theorem cell_declaration (s : Schema) (k : Fin s.columns.length) (r : Record) :
    s.declaration.cell (s.get k).ident r = s.cell k r := by
  have hlength : s.declaration.columns.length = s.columns.length := List.length_map _
  have hfind : s.declaration.columns.findIdx (·.name = (s.get k).ident) = k := by
    rw [List.findIdx_eq (by rw [hlength]; exact k.isLt)]
    refine ⟨?_, fun j hj => ?_⟩
    · simp [declaration, Column.declaration, get]
    · have hne : (s.get ⟨j, hj.trans k.isLt⟩).ident ≠ (s.get k).ident := fun h =>
        hj.ne (Fin.ext_iff.1 (eq_of_ident_eq h))
      simpa [declaration, Column.declaration, get] using hne
  rw [Declaration.cell, hfind, cell]

theorem cell_ofFn (v : Fin s.columns.length → Value) (k : Fin s.columns.length) :
    s.cell k (List.ofFn v) = v k := by
  simp [cell]

/-- A column is the whole key if no other column belongs to the key. -/
theorem primaryKey_eq_singleton_iff (hkey : (s.get k).primaryKey = true) :
    s.primaryKey = [s.get k] ↔ ∀ j, (s.get j).primaryKey = true → j = k := by
  constructor
  · intro h j hj
    have hmem : s.get j ∈ s.primaryKey := mem_primaryKey_iff.2 ⟨j, hj, rfl⟩
    rw [h, List.mem_singleton] at hmem
    exact eq_of_ident_eq (congrArg Column.ident hmem)
  · intro h
    have hnodup : s.primaryKey.Nodup := (List.Nodup.of_map _ s.nodup).filter _
    refine List.perm_singleton.1
      ((List.perm_ext_iff_of_nodup hnodup (List.nodup_singleton _)).2 fun c => ?_)
    rw [mem_primaryKey_iff, List.mem_singleton]
    constructor
    · rintro ⟨j, hj, rfl⟩
      rw [h j hj]
    · rintro rfl
      exact ⟨k, hkey, rfl⟩

/-! ### What the columns of a table can have -/

/-- A column that takes no null has none. -/
theorem cell_ne_null (h : s.declaration.Admits rows)
    (hk : (s.get k).notNull = true ∨ (s.get k).primaryKey = true) :
    ∀ r ∈ rows, s.cell k r ≠ .null := by
  intro r hr
  rw [← s.cell_declaration k r]
  rcases hk with hnotNull | hkey
  · exact h.notNull _ (s.declaration_get k) hnotNull r hr
  · exact h.key_notNull _ (mem_key_iff.2 ⟨k, hkey, rfl⟩) r hr

/-- No two rows have the same key. -/
theorem pairwise_keyOf (h : s.declaration.Admits rows) (hkey : s.primaryKey ≠ []) :
    rows.Pairwise fun r r' => Batch.sameKey (s.keyOf r) (s.keyOf r') = false := by
  have hne : s.declaration.key ≠ [] := fun hnil => hkey (List.map_eq_nil_iff.1 hnil)
  refine (h.key_unique hne).imp fun {r r'} hdiffer => ?_
  obtain ⟨name, hname, hdiffer⟩ := hdiffer
  obtain ⟨k, hk, rfl⟩ := mem_key_iff.1 hname
  rw [cell_declaration, cell_declaration] at hdiffer
  refine Bool.eq_false_iff.2 fun hsame => ?_
  rw [sameKey_iff, keyOf, keyOf, List.forall₂_map_left_iff, List.forall₂_map_right_iff,
    List.forall₂_same] at hsame
  have hmem : k ∈ s.keyPositions := List.mem_filter.2 ⟨List.mem_finRange k, hk⟩
  exact Bool.false_ne_true (hdiffer.symm.trans (hsame k hmem))

/-- A unique column does not repeat if it is no part of the key, or the whole of it. -/
theorem pairwise_of_unique (h : s.declaration.Admits rows) (hunique : (s.get k).unique = true)
    (hkey : (s.get k).primaryKey = true → s.primaryKey = [s.get k]) :
    rows.Pairwise fun r r' => ¬(s.cell k r).Shares (s.cell k r') := by
  by_cases hk : (s.get k).primaryKey = true
  · have hnames : s.declaration.key = [(s.get k).ident] :=
      congrArg (List.map Column.ident) (hkey hk)
    refine (h.key_unique (by rw [hnames]; exact List.cons_ne_nil _ _)).imp ?_
    rintro r r' ⟨name, hname, hdiffer⟩ hshares
    obtain rfl : name = (s.get k).ident := by rwa [hnames, List.mem_singleton] at hname
    rw [cell_declaration, cell_declaration] at hdiffer
    exact Bool.false_ne_true (hdiffer.symm.trans hshares.2)
  · have hdeclared : (s.get k).declaration.unique = true := by
      simp [Column.declaration, hunique, hk]
    have hpairwise := h.unique _ (s.declaration_get k) hdeclared
    simpa only [Column.declaration_name, cell_declaration] using hpairwise

/-- A column that is not the whole key has another one beside it in the key. -/
theorem exists_other (hkey : (s.get k).primaryKey = true) (hother : s.primaryKey ≠ [s.get k]) :
    ∃ j, (s.get j).primaryKey = true ∧ j ≠ k := by
  by_contra h
  refine hother ((primaryKey_eq_singleton_iff hkey).2 fun j hj => ?_)
  by_contra hjk
  exact h ⟨j, hj, hjk⟩

/-- Two rows without nulls that differ in all columns but one of a key with other columns are
admitted together. -/
theorem admits_pair (hkey : (s.get k).primaryKey = true) (hother : s.primaryKey ≠ [s.get k])
    {r r' : Record} (hlength : ∀ t ∈ [r, r'], t.length = s.columns.length)
    (hnull : ∀ t ∈ [r, r'], ∀ i, s.cell i t ≠ .null)
    (hdiffer : ∀ i, i ≠ k → (s.cell i r).same (s.cell i r') = false) :
    s.declaration.Admits [r, r'] := by
  constructor
  · have hcolumns : s.declaration.columns.length = s.columns.length := List.length_map _
    rwa [hcolumns]
  · simp only [forall_mem_columns, Column.declaration_name, cell_declaration]
    exact fun i _ t ht => hnull t ht i
  · simp only [forall_mem_columns, Column.declaration_name, cell_declaration, List.pairwise_pair]
    -- The column itself is in the key, so it is not declared unique.
    intro i hunique hshares
    have hi : i ≠ k := by
      rintro rfl
      simp [Column.declaration, hkey] at hunique
    exact Bool.false_ne_true ((hdiffer i hi).symm.trans hshares.2)
  · intro name hname t ht
    obtain ⟨i, -, rfl⟩ := mem_key_iff.1 hname
    rw [cell_declaration]
    exact hnull t ht i
  · intro _
    obtain ⟨j, hj, hjk⟩ := exists_other hkey hother
    refine List.pairwise_pair.2 ⟨_, mem_key_iff.2 ⟨j, hj, rfl⟩, ?_⟩
    rw [cell_declaration, cell_declaration]
    exact hdiffer j hjk

/-- A column of a key with other columns may repeat a value. -/
theorem exists_repeated (hkey : (s.get k).primaryKey = true) (hother : s.primaryKey ≠ [s.get k]) :
    ∃ rows, s.declaration.Admits rows ∧ (∀ r ∈ rows, ∀ i, (s.get i).type.Holds (s.cell i r)) ∧
      ¬rows.Pairwise fun r r' => ¬(s.cell k r).Shares (s.cell k r') := by
  choose low high hlow hhigh hdiffer using SqlType.exists_holds
  -- The second row has other values than the first one in all other columns.
  let first : Record := List.ofFn fun i => low (s.get i).type
  let second : Record :=
    List.ofFn fun i => if i = k then low (s.get i).type else high (s.get i).type
  have hfirst : ∀ i, s.cell i first = low (s.get i).type := cell_ofFn _
  have hsecond : ∀ i, s.cell i second =
      if i = k then low (s.get i).type else high (s.get i).type := cell_ofFn _
  have hholds : ∀ r ∈ [first, second], ∀ i, (s.get i).type.Holds (s.cell i r) := by
    intro r hr i
    rw [List.mem_pair] at hr
    rcases hr with rfl | rfl
    · rw [hfirst]
      exact hlow _
    · rw [hsecond]
      split
      · exact hlow _
      · exact hhigh _
  refine ⟨[first, second], ?_, hholds, fun hpairwise => ?_⟩
  · refine admits_pair hkey hother (by simp [first, second])
      (fun r hr i => (hholds r hr i).ne_null) fun i hi => ?_
    rw [hfirst, hsecond, if_neg hi]
    exact hdiffer _
  · refine List.pairwise_pair.1 hpairwise ?_
    rw [hfirst, hsecond, if_pos rfl]
    exact ⟨(hlow _).ne_null, (hlow _).same_self⟩

/-- What the statement that makes a table enforces, whatever rows the table has.

* A column that takes no null has none.
* Rows differ in their keys, if there is a primary key.
* A column that is flagged as unique does not repeat a value, if it is no part of the primary key or
  the whole of it.
* Every other column of the primary key can repeat one, in rows of values that the columns have by
  their types. -/
theorem createTable_enforces (s : Schema) :
    ∃ d, Declaration.ofText? s.createTable = some d ∧
      (∀ rows, d.Admits rows →
        (∀ k, (s.get k).notNull = true ∨ (s.get k).primaryKey = true →
          ∀ r ∈ rows, s.cell k r ≠ .null) ∧
        (s.primaryKey ≠ [] →
          rows.Pairwise fun r r' => Batch.sameKey (s.keyOf r) (s.keyOf r') = false) ∧
        ∀ k, (s.get k).unique = true →
          ((s.get k).primaryKey = true → s.primaryKey = [s.get k]) →
            rows.Pairwise fun r r' => ¬(s.cell k r).Shares (s.cell k r')) ∧
      ∀ k, (s.get k).primaryKey = true → s.primaryKey ≠ [s.get k] →
        ∃ rows, d.Admits rows ∧ (∀ r ∈ rows, ∀ i, (s.get i).type.Holds (s.cell i r)) ∧
          ¬rows.Pairwise fun r r' => ¬(s.cell k r).Shares (s.cell k r') := by
  refine ⟨s.declaration, s.ofText?_createTable, fun rows h => ⟨?_, ?_, ?_⟩, ?_⟩
  · exact fun k => cell_ne_null h
  · exact pairwise_keyOf h
  · exact fun k => pairwise_of_unique h
  · exact fun k => exists_repeated

end Schema

/-! ### Berths of a train -/

namespace Berths

/-- The table of the columns. -/
def table : TableName := ⟨⟨"rail", by decide, by decide⟩, ⟨"berth", by decide, by decide⟩⟩

/-- The declaration of a column of the key. -/
def part (name : String) : ColumnDef := ColumnDef.flag { name, type := .integer } .primaryKey

/-- Berths are told apart by their wagon and their bunk together. -/
def schema : Schema where
  table := table
  columns := [(part "wagon").bind table ⟨"wagon", by decide, by decide⟩,
    (part "bunk").bind table ⟨"bunk", by decide, by decide⟩]
  table_eq := by decide
  nodup := by decide

/-- The place of the first column. -/
def wagon : Fin schema.columns.length := ⟨0, by decide⟩

/-- The wagon of a berth is flagged as unique, and still the table can have two berths in one
wagon. -/
theorem createTable_enforces_berths :
    Schema.declare "rail" "berth" [part "wagon", part "bunk"] = .ok schema ∧
      (schema.get wagon).unique = true ∧
      ∃ d rows, Declaration.ofText? schema.createTable = some d ∧ d.Admits rows ∧
        ¬rows.Pairwise fun r r' => ¬(schema.cell wagon r).Shares (schema.cell wagon r') := by
  obtain ⟨d, hread, -, hrepeats⟩ := schema.createTable_enforces
  obtain ⟨rows, hrows, -, hshares⟩ := hrepeats wagon rfl (by decide)
  exact ⟨by decide, rfl, d, rows, hread, hrows, hshares⟩

end Berths

end TypedTable
