import TypedTable.Condition
import TypedTable.Instance
import TypedTable.Proofs.Coercion
import TypedTable.Proofs.Schema
/-!
# Declarations that differ in literals

Two values are alike if the server evaluates both from the same text, or if it evaluates neither: of
literals it does not matter what they are (`Value.Alike`). Storing a value does not change which of
the two it is.

Two tables are alike if they were declared in the same way up to the defaults (`Schema.Alike`).
Their columns are the same up to the defaults (`Schema.Alike.map_eq`), and looking up a column finds
the same name in both (`Column.Alike.name_eq`). What the defaults are only matters where rows are
written, and there it is asked that they give alike values (`Schema.DefaultsAlike`).
-/

namespace TypedTable

/-! ### Values -/

/-- Whether two values are the same SQL text to be evaluated, or no such text both. -/
def Value.Alike (v w : Value) : Prop := v.random? = w.random?

/-- Whether two slots are both unset or set to alike values. -/
def SlotAlike (v w : Option Value) : Prop := v.map Value.random? = w.map Value.random?

theorem slotAlike_some {v w : Value} : SlotAlike (some v) (some w) ↔ v.Alike w := by
  unfold SlotAlike Value.Alike
  rw [Option.map_some, Option.map_some, Option.some.injEq]

theorem SlotAlike.or {v w v' w' : Option Value} (h : SlotAlike v w) (h' : SlotAlike v' w') :
    SlotAlike (v.or v') (w.or w') := by
  cases v <;> cases w <;> first | exact h' | exact h | exact (nomatch h)

namespace Value

theorem random?_eq_some {v : Value} {sql : String} : v.random? = some sql ↔ v = .random sql := by
  cases v <;> simp [random?]

/-- Values are alike if they are the same SQL text whenever one of them is one. -/
theorem alike_iff {v w : Value} :
    v.Alike w ↔ ∀ sql, v = .random sql ↔ w = .random sql := by
  unfold Alike
  rw [Option.ext_iff]
  simp only [random?_eq_some]

end Value

/-- A column takes a value as SQL text exactly if it is given as such. -/
theorem Column.alike_of_validate {c : Column} {v w : Value} (h : c.validate v = .ok w) :
    w.Alike v := by
  refine Value.alike_iff.2 fun sql => ?_
  have hrandom := @Column.validate_eq_random c v sql
  rwa [h, Except.ok.injEq] at hrandom

/-- What the default of a column gives, before it is brought to the type of the column. -/
def Column.givenDefault? (c : Column) (e : Evaluation) : Option Value :=
  c.default.map (Default.resolve (e c.name))

/-- Defaults stay what they are when they are brought to the type of the column. -/
theorem Column.slotAlike_default? (c : Column) (e : Evaluation) :
    SlotAlike (c.default? e) (c.givenDefault? e) := by
  unfold default? givenDefault? SlotAlike
  rw [Option.map_map, Option.map_map]
  refine congrArg (c.default.map ·) (funext fun d => ?_)
  show ((c.type.coerce (d.resolve (e c.name))).toOption.getD (d.resolve (e c.name))).Alike
    (d.resolve (e c.name))
  cases h : c.type.coerce (d.resolve (e c.name)) with
  | error r => rfl
  | ok w =>
    refine Value.alike_iff.2 fun sql => ?_
    have hrandom := @SqlType.coerce_eq_random c.type (d.resolve (e c.name)) sql
    rwa [h, Except.ok.injEq] at hrandom

/-! ### Columns and tables -/

/-- Whether two columns are declared in the same way up to the defaults. -/
def ColumnDef.Alike (d d' : ColumnDef) : Prop :=
  { d with default := none } = { d' with default := none }

/-- The column without its default. -/
def Column.withoutDefault (c : Column) : Column := { c with default := none }

/-- Whether two tables are declared in the same way up to the defaults. -/
inductive Schema.Alike : Schema → Schema → Prop
  | declare {schema table : String} {defs defs' : List ColumnDef} {s s' : Schema}
      (hdefs : List.Forall₂ ColumnDef.Alike defs defs')
      (h : Schema.declare schema table defs = .ok s)
      (h' : Schema.declare schema table defs' = .ok s') : Schema.Alike s s'

/-- Whether two columns are looked up under the same name in tables that are declared alike. -/
def Column.Alike (c c' : Column) : Prop :=
  ∃ (s s' : Schema) (name : String), s.Alike s' ∧ s.column name = .ok c ∧ s'.column name = .ok c'

/-- Whether columns are named in the same way, by tables that are declared alike. -/
structure ColumnRef.Alike (r r' : ColumnRef) : Prop where
  schema : r.schema.Alike r'.schema
  name : r.name = r'.name

namespace Schema

/-- A column is added under a name that can be one. -/
theorem add_eq_ok {s t : Schema} {d : ColumnDef} (h : s.add d = .ok t) :
    ∃ name, Ident.ofText d.name = .ok name ∧ t.table = s.table ∧
      t.columns = s.columns ++ [d.bind s.table name] := by
  unfold add at h
  split at h
  · exact (nomatch h)
  · split at h
    · exact (nomatch h)
    · next name hname =>
      split at h
      · exact (nomatch h)
      · cases h
        exact ⟨name, hname, rfl, rfl⟩

/-- Whether two tables have the same name and the same columns up to the defaults. -/
structure Matches (s s' : Schema) : Prop where
  table : s.table = s'.table
  columns : List.Forall₂ (fun c c' => c.withoutDefault = c'.withoutDefault) s.columns s'.columns

/-- Whether the same columns of two tables have defaults, and these give alike values. -/
def DefaultsAlike (s s' : Schema) (e e' : Evaluation) : Prop :=
  List.Forall₂ (fun c c' => SlotAlike (c.givenDefault? e) (c'.givenDefault? e')) s.columns
    s'.columns

theorem Matches.add {s s' t t' : Schema} {d d' : ColumnDef} (h : s.Matches s') (hd : d.Alike d')
    (ht : s.add d = .ok t) (ht' : s'.add d' = .ok t') : t.Matches t' := by
  obtain ⟨name, hname, htable, hcolumns⟩ := add_eq_ok ht
  obtain ⟨name', hname', htable', hcolumns'⟩ := add_eq_ok ht'
  unfold ColumnDef.Alike at hd
  rw [ColumnDef.mk.injEq] at hd
  obtain ⟨hdname, htype, hprimaryKey, hunique, hnotNull, -, hforeignKey⟩ := hd
  rw [hdname] at hname
  cases hname.symm.trans hname'
  refine ⟨by rw [htable, htable', h.table], ?_⟩
  rw [hcolumns, hcolumns']
  refine List.rel_append h.columns (.cons ?_ .nil)
  simp only [Column.withoutDefault, ColumnDef.bind, Column.mk.injEq]
  exact ⟨by rw [h.table], htype, hprimaryKey, hunique, hnotNull, trivial, hforeignKey⟩

theorem Matches.foldlM {s s' t t' : Schema} {defs defs' : List ColumnDef} (h : s.Matches s')
    (hdefs : List.Forall₂ ColumnDef.Alike defs defs') (ht : defs.foldlM Schema.add s = .ok t)
    (ht' : defs'.foldlM Schema.add s' = .ok t') : t.Matches t' := by
  induction hdefs generalizing s s' with
  | nil =>
    cases ht
    cases ht'
    exact h
  | cons hd _ ih =>
    rw [List.foldlM_cons] at ht ht'
    obtain ⟨u, hu, ht⟩ := bind_eq_ok.1 ht
    obtain ⟨u', hu', ht'⟩ := bind_eq_ok.1 ht'
    exact ih (h.add hd hu hu') ht ht'

/-- Tables that are declared alike match. -/
theorem Alike.matches {s s' : Schema} (h : s.Alike s') : s.Matches s' := by
  obtain ⟨hdefs, h, h'⟩ := h
  obtain ⟨schema, hschema, h⟩ := bind_eq_ok.1 h
  obtain ⟨table, htable, h⟩ := bind_eq_ok.1 h
  obtain ⟨schema', hschema', h'⟩ := bind_eq_ok.1 h'
  obtain ⟨table', htable', h'⟩ := bind_eq_ok.1 h'
  cases hschema.symm.trans hschema'
  cases htable.symm.trans htable'
  have hempty : (empty ⟨schema, table⟩).Matches (empty ⟨schema, table⟩) := ⟨rfl, .nil⟩
  exact hempty.foldlM hdefs h h'

section Alike

variable {s s' : Schema} (h : s.Alike s')

include h

/-- What is asked of columns without regard to their defaults has the same answer. -/
theorem Alike.map_eq {β : Type} {f : Column → β} (hf : ∀ c, f c.withoutDefault = f c) :
    s.columns.map f = s'.columns.map f := by
  refine map_eq_of_forall₂ (h.matches.columns.imp fun c c' hc => ?_)
  rw [← hf c, hc, hf]

theorem Alike.length_eq : s.columns.length = s'.columns.length :=
  h.matches.columns.length_eq

theorem Alike.name_get {k : Nat} (hk : k < s.columns.length) (hk' : k < s'.columns.length) :
    (s.get ⟨k, hk⟩).name = (s'.get ⟨k, hk'⟩).name := by
  have hsame := (List.forall₂_iff_get.1 h.matches.columns).2 k hk hk'
  rw [Column.withoutDefault, Column.withoutDefault, Column.mk.injEq] at hsame
  exact hsame.1

theorem Alike.columnList_eq : s.columnList = s'.columnList :=
  congrArg Text.commas (h.map_eq fun _ => rfl)

theorem Alike.keyList_eq : s.keyList = s'.keyList := by
  -- The key is picked from the columns without their defaults.
  have hcolumns := h.map_eq fun c => (rfl : c.withoutDefault.withoutDefault = c.withoutDefault)
  have hkey : ∀ t : Schema, t.primaryKey.map (·.ident.sql) =
      ((t.columns.map Column.withoutDefault).filter Column.primaryKey).map (·.ident.sql) := by
    intro t
    rw [List.filter_map, List.map_map]
    rfl
  rw [keyList, keyList, hkey, hkey, hcolumns]

theorem Alike.hasPrimaryKey_eq : s.hasPrimaryKey = s'.hasPrimaryKey := by
  have hflags := h.map_eq (f := Column.primaryKey) fun _ => rfl
  have hany : ∀ t : Schema, t.hasPrimaryKey = (t.columns.map Column.primaryKey).any id := by
    intro t
    rw [List.any_map]
    rfl
  rw [hany, hany, hflags]

end Alike

end Schema

/-- The same name is found in tables that are declared alike. -/
theorem Column.Alike.name_eq {c c' : Column} (h : c.Alike c') : c.name = c'.name := by
  obtain ⟨s, s', name, hs, hc, hc'⟩ := h
  obtain ⟨hident, htable⟩ := Schema.column_eq_ok hc
  obtain ⟨hident', htable'⟩ := Schema.column_eq_ok hc'
  have hcolumn : c.ident = c'.ident := Ident.eq_of_text_eq (hident.trans hident'.symm)
  have htables : c.table = c'.table := by rw [htable, hs.matches.table, htable']
  exact ColumnName.mk.injEq .. ▸ ⟨htables, hcolumn⟩

theorem ColumnRef.Alike.resolve {r r' : ColumnRef} {c c' : Column} (h : r.Alike r')
    (hc : r.resolve = .ok c) (hc' : r'.resolve = .ok c') : c.Alike c' :=
  ⟨r.schema, r'.schema, r.name, h.schema, hc, h.name ▸ hc'⟩

end TypedTable
