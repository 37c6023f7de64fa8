import TypedTable.Proofs.Rendering.Clauses
import TypedTable.Proofs.Schema
import TypedTable.Query.Update
/-!
# What an update assigns

Setting columns one after the other keeps the last value for each name, at the place of the first
(`names_setAll`, `lookup_setAll`), and every name stands for one assignment (`Assigns`). Assignments
and filters share one list of parameters, in which the value of a filter replaces that of an
assignment with the same name. The table's name, an underscore and the column's name can be such a
name, if the column is called like a comparison of another column.

`Update.read_of_build` says what a server reads: comparisons with their own values, and assignments
with theirs unless a comparison is bound under the same name. So all values are as they were given
exactly if a comparison that shares its name with an assignment has the same value.
-/

namespace TypedTable

open Template

/-! ### Setting columns -/

namespace Update

/-- Sets columns one after the other. -/
def setAll (q : Update) (calls : List (String × Value)) : Update :=
  calls.foldl (fun q call => q.set call.1 call.2) q

theorem setAll_concat (q : Update) (calls : List (String × Value)) (call : String × Value) :
    q.setAll (calls ++ [call]) = (q.setAll calls).set call.1 call.2 := by
  rw [setAll, List.foldl_append]
  rfl

/-- Setting columns leaves the table and the clauses alone. -/
theorem setAll_eq (q : Update) (calls : List (String × Value)) :
    q.setAll calls = ⟨q.schema, (q.setAll calls).sets, q.clauses⟩ := by
  induction calls using List.reverseRecOn with
  | nil => rfl
  | append_singleton calls call ih =>
    rw [setAll_concat, ih]
    rfl

theorem entryNames_setEntry (name : String) (v : Value) (l : List (String × Value)) :
    entryNames (setEntry name v l) =
      if name ∈ entryNames l then entryNames l else entryNames l ++ [name] := by
  induction l with
  | nil => rfl
  | cons e l ih =>
    obtain ⟨k, w⟩ := e
    rw [setEntry, Params.entryNames_cons]
    by_cases hk : k = name
    · rw [if_pos hk, if_pos (List.mem_cons.2 (.inl hk.symm)), Params.entryNames_cons]
    · rw [if_neg hk, Params.entryNames_cons, ih]
      by_cases hl : name ∈ entryNames l
      · rw [if_pos hl, if_pos (List.mem_cons_of_mem k hl)]
      · have hcons : name ∉ k :: entryNames l := by
          rw [List.mem_cons, not_or]
          exact ⟨Ne.symm hk, hl⟩
        rw [if_neg hl, if_neg hcons]
        rfl

theorem lookup_setEntry (name k : String) (v : Value) (l : List (String × Value)) :
    Params.lookup k (setEntry name v l) = if name = k then some v else Params.lookup k l := by
  induction l with
  | nil => rfl
  | cons e l ih =>
    obtain ⟨m, w⟩ := e
    rw [setEntry]
    by_cases hm : m = name
    · subst hm
      rw [if_pos rfl, Params.lookup, Params.lookup]
      split <;> rfl
    · rw [if_neg hm, Params.lookup, Params.lookup, ih]
      by_cases hk : name = k
      · subst hk
        rw [if_pos rfl, if_pos rfl, if_neg hm]
      · rw [if_neg hk, if_neg hk]

variable {q : Update}

/-- The names are those that were set, in the order in which they were first set. -/
theorem names_setAll (h : q.sets = []) (calls : List (String × Value)) :
    entryNames (q.setAll calls).sets = (entryNames calls).eraseDups := by
  induction calls using List.reverseRecOn with
  | nil =>
    show entryNames q.sets = _
    rw [h]
    rfl
  | append_singleton calls call ih =>
    rw [setAll_concat, Params.entryNames_append]
    show entryNames (setEntry call.1 call.2 (q.setAll calls).sets) =
      (entryNames calls ++ [call.1]).eraseDups
    rw [entryNames_setEntry, eraseDups_concat, ih]
    simp only [List.mem_eraseDups]

/-- Every name has the value that it was set to last. -/
theorem lookup_setAll (h : q.sets = []) (calls : List (String × Value)) (name : String) :
    Params.lookup name (q.setAll calls).sets = Params.lookup name calls.reverse := by
  induction calls using List.reverseRecOn with
  | nil =>
    show Params.lookup name q.sets = _
    rw [h]
    rfl
  | append_singleton calls call ih =>
    rw [setAll_concat, List.reverse_append]
    show Params.lookup name (setEntry call.1 call.2 (q.setAll calls).sets) =
      Params.lookup name (call :: calls.reverse)
    rw [lookup_setEntry, ih, Params.lookup]

end Update

/-! ### Assignments -/

/-- The assignment of a checked value to a column. -/
def Assignment.ofValue (c : Column) : Value → Assignment
  | .random sql => .random c sql
  | v => .bound c v

/-- Whether an assignment is what calls that set columns ask for under a name: it assigns the value
that was set last, as the column takes it. -/
def Assigns (s : Schema) (calls : List (String × Value)) (name : String) (a : Assignment) : Prop :=
  ∃ c v w, s.column name = .ok c ∧ Params.lookup name calls.reverse = some v ∧
    c.validate v = .ok w ∧ a = .ofValue c w

/-- A name stands for one assignment. -/
theorem Assigns.unique {s : Schema} {calls : List (String × Value)} {name : String}
    {a a' : Assignment} (h : Assigns s calls name a) (h' : Assigns s calls name a') : a = a' := by
  obtain ⟨c, v, w, hc, hv, hw, rfl⟩ := h
  obtain ⟨c', v', w', hc', hv', hw', rfl⟩ := h'
  cases hc.symm.trans hc'
  cases hv.symm.trans hv'
  cases hw.symm.trans hw'
  rfl

theorem assignment_eq_ok {s : Schema} {name : String} {v : Value} {a : Assignment} :
    Update.assignment s (name, v) = .ok a ↔
      ∃ c w, s.column name = .ok c ∧ c.validate v = .ok w ∧ a = .ofValue c w := by
  unfold Update.assignment
  rw [bind_eq_ok]
  constructor
  · rintro ⟨c, hc, h⟩
    obtain ⟨w, hw, h⟩ := bind_eq_ok.1 h
    refine ⟨c, w, hc, mapError_eq_ok.1 hw, ?_⟩
    cases w <;> exact (Except.ok.inj h).symm
  · rintro ⟨c, w, hc, hw, rfl⟩
    refine ⟨c, hc, bind_eq_ok.2 ⟨w, mapError_eq_ok.2 hw, ?_⟩⟩
    cases w <;> rfl

theorem ofValue_eq_random {c c' : Column} {w : Value} {sql : String}
    (h : Assignment.ofValue c w = .random c' sql) : w = .random sql := by
  cases w <;> cases h
  rfl

/-- The SQL text of an assignment is that of a value that is set. -/
theorem inert_of_mem_assignments {s : Schema} {sets : List (String × Value)}
    {assignments : List Assignment} (h : sets.mapM (Update.assignment s) = .ok assignments)
    (hsets : ∀ e ∈ sets, e.2.IsInert) {c : Column} {sql : String}
    (ha : .random c sql ∈ assignments) : Inert sql := by
  obtain ⟨⟨name, v⟩, hset, hassignment⟩ := exists_of_mem_right (mapM_eq_ok_iff.1 h) ha
  obtain ⟨c', w, -, hw, heq⟩ := assignment_eq_ok.1 hassignment
  obtain rfl := ofValue_eq_random heq.symm
  exact hsets _ hset sql (Column.validate_eq_random.1 hw)

/-- The assignments of a list of sets are those that the calls ask for, name by name. -/
theorem forall₂_assigns {s : Schema} {calls sets : List (String × Value)}
    {assignments : List Assignment} (hnodup : (entryNames sets).Nodup)
    (hlookup : ∀ name, Params.lookup name sets = Params.lookup name calls.reverse)
    (h : sets.mapM (Update.assignment s) = .ok assignments) :
    List.Forall₂ (Assigns s calls) (entryNames sets) assignments := by
  rw [mapM_eq_ok_iff] at h
  rw [entryNames, List.forall₂_map_left_iff]
  refine List.Forall₂.imp ?_ ((List.forall₂_and_left sets assignments).2 ⟨fun _ hset => hset, h⟩)
  rintro ⟨name, v⟩ a ⟨hset, ha⟩
  obtain ⟨c, w, hc, hw, rfl⟩ := assignment_eq_ok.1 ha
  refine ⟨c, v, w, hc, ?_, hw, rfl⟩
  rw [← hlookup]
  exact Params.lookup_of_mem hset fun u hu => Params.eq_of_mem_of_nodup hnodup hu hset

/-! ### The statement -/

namespace Assignment

/-- The value of an assignment, with its name, if one is sent. -/
def bindings : Assignment → List (String × Value)
  | bound c v => [(boundName c, v)]
  | random _ _ => []

/-- An assignment as it is meant. -/
def template : Assignment → Template
  | bound c v => ofText (c.ident.sql ++ " = ") ++ [.value (boundName c) v]
  | random c sql => ofText (c.ident.sql ++ " = " ++ sql)

/-- The assignment of the value that is bound under its name, if there is one among other values. -/
def overwrite (others : List (String × Value)) : Assignment → Assignment
  | bound c v => bound c ((Params.lookup (boundName c) others).getD v)
  | random c sql => random c sql

theorem bindings_template (a : Assignment) : a.template.bindings = a.bindings := by
  cases a <;> simp [template, bindings]

theorem addTo_eq (before : Params) (a : Assignment) :
    addTo before a = before.insertAll a.bindings := by
  cases a <;> rfl

theorem renders {a : Assignment} (h : ∀ c sql, a = .random c sql → Inert sql) :
    Renders a.sql a.template := by
  have heq : Inert " = " := inert_of_all (by decide)
  cases a with
  | bound c v =>
    have hcolon : (bound c v).sql = c.ident.sql ++ " = " ++ (":" ++ boundName c) := by
      rw [String.append_assoc]
      exact String.append_assoc
    rw [hcolon]
    exact ((inert_ident c.ident).append heq).append_renders ((isName_assignment c).renders v)
  | random c sql => exact (((inert_ident c.ident).append heq).append (h c sql rfl)).renders

end Assignment

namespace Update

/-- A statement that changes rows, as it is meant. -/
def template (table : TableName) (assignments : List Assignment) (tail : Tail) : Template :=
  ofText ("UPDATE " ++ table.sql ++ " SET ") ++
    separated ", " (assignments.map Assignment.template) ++ tail.targetTemplate table ++
    ofText " RETURNING *"

theorem bindings_updateTemplate (table : TableName) (assignments : List Assignment) (tail : Tail) :
    (template table assignments tail).bindings =
      assignments.flatMap Assignment.bindings ++ tail.bindings := by
  simp only [template, bindings_append, bindings_ofText, bindings_separated, List.flatMap_map,
    Assignment.bindings_template, Tail.bindings_targetTemplate, List.nil_append, List.append_nil]

theorem writes_statement {next : Nat} {pool : List Predicate} {tail : Tail}
    {assignments : List Assignment} (h : Composed next pool)
    (hfilters : ∀ p ∈ tail.filters, p ∈ pool)
    (hinert : ∀ c sql, .random c sql ∈ assignments → Inert sql) (table : TableName) :
    (statement table assignments tail).Writes (template table assignments tail) := by
  have hupdate : Inert "UPDATE " := inert_of_all (by decide)
  have hset : Inert " SET " := inert_of_all (by decide)
  have hcomma : Inert ", " := inert_of_all (by decide)
  have hreturning : Inert " RETURNING *" := inert_of_all (by decide)
  have hassignments : List.Forall₂ Renders (assignments.map Assignment.sql)
      (assignments.map Assignment.template) :=
    forall₂_renders fun a ha => Assignment.renders fun c sql heq => hinert c sql (heq ▸ ha)
  have hsets := renders_separated hcomma (by simp) (endsName_cons.2 rfl) hassignments
  have htarget := Tail.renders_target (fun p hp => h.renders p (hfilters p hp)) table
  constructor
  · have htext := ((hupdate.append (inert_table table)).append hset).append_renders hsets
    exact (htext.append htarget.1 htarget.2).append hreturning.renders (endsName_cons.2 rfl)
  · intro name
    show (tail.params (assignments.foldl Assignment.addTo .empty)).get? name = _
    rw [bindings_updateTemplate, get?_tailParams h hfilters,
      Params.foldl_eq_insertAll Assignment.addTo_eq, Params.get?_insertAll, Params.get?_empty,
      Option.or_none, List.reverse_append, Params.lookup_append]

end Update

/-! ### What the server reads -/

/-- An assignment that calls ask for assigns to a column of the table with that name. -/
theorem Assigns.column {s : Schema} {calls : List (String × Value)} {name : String} {c : Column}
    {v : Value} (h : Assigns s calls name (.bound c v)) :
    c.ident.text = name ∧ c.table = s.table := by
  obtain ⟨c', u, w, hc, -, -, ha⟩ := h
  have hcolumn : c = c' := by
    cases w <;> first | exact (Assignment.bound.inj ha).1 | exact (nomatch ha)
  rw [hcolumn]
  exact Schema.column_eq_ok hc

/-- Assignments under one name assign one value: they are to the same column. -/
theorem value_unique {s : Schema} {calls : List (String × Value)} {names : List String}
    {assignments : List Assignment} (h : List.Forall₂ (Assigns s calls) names assignments)
    {name : String} {v w : Value} (hv : (name, v) ∈ assignments.flatMap Assignment.bindings)
    (hw : (name, w) ∈ assignments.flatMap Assignment.bindings) : v = w := by
  obtain ⟨a, ha, hv⟩ := List.mem_flatMap.1 hv
  obtain ⟨a', ha', hw⟩ := List.mem_flatMap.1 hw
  cases a with
  | random c sql => exact absurd hv List.not_mem_nil
  | bound c u =>
    cases a' with
    | random c' sql => exact absurd hw List.not_mem_nil
    | bound c' u' =>
      obtain ⟨hname, rfl⟩ := Prod.mk.inj (List.mem_singleton.1 hv)
      obtain ⟨hname', rfl⟩ := Prod.mk.inj (List.mem_singleton.1 hw)
      obtain ⟨n, -, hn⟩ := exists_of_mem_right h ha
      obtain ⟨n', -, hn'⟩ := exists_of_mem_right h ha'
      obtain ⟨htext, htable⟩ := hn.column
      obtain ⟨htext', htable'⟩ := hn'.column
      -- One name in one table is one column, which is assigned to once.
      have hident := ident_eq_of_assignment_eq (htable.trans htable'.symm) (hname.symm.trans hname')
      obtain rfl : n = n' := by rw [← htext, ← htext', hident]
      exact (Assignment.bound.inj (hn.unique hn')).2

section Values

variable {params : Params} {assignments : List Assignment} {tail : Tail}
  (hget : ∀ name, params.get? name = (Params.lookup name tail.bindings.reverse).or
    (Params.lookup name (assignments.flatMap Assignment.bindings).reverse))
  (htail : ∀ {name v w}, (name, v) ∈ tail.bindings → (name, w) ∈ tail.bindings → v = w)
  (hassignments : ∀ {name v w}, (name, v) ∈ assignments.flatMap Assignment.bindings →
    (name, w) ∈ assignments.flatMap Assignment.bindings → v = w)

include hget htail

/-- A comparison has its own value. -/
theorem get?_of_mem_tail {name : String} {v : Value} (h : (name, v) ∈ tail.bindings) :
    params.get? name = some v := by
  rw [hget, Params.lookup_of_mem (List.mem_reverse.2 h) fun w hw => htail (List.mem_reverse.1 hw) h]
  rfl

include hassignments

/-- An assignment has the value of a comparison under its name, else its own. -/
theorem get?_of_mem_assignments {c : Column} {v : Value} (h : .bound c v ∈ assignments) :
    params.get? (Assignment.boundName c) =
      some ((Params.lookup (Assignment.boundName c) tail.bindings).getD v) := by
  have hmem : (Assignment.boundName c, v) ∈ assignments.flatMap Assignment.bindings :=
    List.mem_flatMap.2 ⟨_, h, List.mem_singleton.2 rfl⟩
  have hown : Params.lookup (Assignment.boundName c)
      (assignments.flatMap Assignment.bindings).reverse = some v :=
    Params.lookup_of_mem (List.mem_reverse.2 hmem) fun w hw =>
      hassignments (List.mem_reverse.1 hw) hmem
  rw [hget, Params.lookup_reverse fun _ _ => htail, hown]
  cases Params.lookup (Assignment.boundName c) tail.bindings <;> rfl

theorem lookUp_updateTemplate (table : TableName) :
    (Update.template table assignments tail).lookUp params =
      Update.template table (assignments.map (·.overwrite tail.bindings)) tail := by
  -- Comparisons keep their values, so only the assignments change.
  have htarget : (tail.targetTemplate table).lookUp params = tail.targetTemplate table := by
    refine lookUp_eq_self fun name v hv => ?_
    rw [Tail.bindings_targetTemplate] at hv
    exact get?_of_mem_tail hget htail hv
  have hset : (assignments.map Assignment.template).map (Template.lookUp params) =
      (assignments.map (·.overwrite tail.bindings)).map Assignment.template := by
    rw [List.map_map, List.map_map]
    refine List.map_congr_left ?_
    rintro (⟨c, v⟩ | ⟨c, sql⟩) ha
    · show Template.lookUp params
        (ofText (c.ident.sql ++ " = ") ++ [Part.value (Assignment.boundName c) v]) = _
      rw [lookUp_append, lookUp_ofText]
      show _ ++ [Part.value _ ((params.get? (Assignment.boundName c)).getD v)] = _
      rw [get?_of_mem_assignments hget htail hassignments ha]
      rfl
    · exact lookUp_ofText params _
  rw [Update.template, lookUp_append, lookUp_append, lookUp_append, lookUp_ofText, lookUp_ofText,
    lookUp_separated, hset, htarget]
  rfl

/-- Every value is bound to its name exactly if comparisons agree with the assignments that have
their names. -/
theorem forall_get?_iff (table : TableName) :
    (∀ name v, (name, v) ∈ (Update.template table assignments tail).bindings →
        params.get? name = some v) ↔
      ∀ c v w, .bound c v ∈ assignments →
        (Assignment.boundName c, w) ∈ tail.bindings → w = v := by
  rw [Update.bindings_updateTemplate]
  constructor
  · intro h c v w hv hw
    have hassigned : (Assignment.boundName c, v) ∈ assignments.flatMap Assignment.bindings :=
      List.mem_flatMap.2 ⟨_, hv, List.mem_singleton.2 rfl⟩
    -- Both are bound under the name, and the comparison wins.
    have hbound := h _ v (List.mem_append_left _ hassigned)
    rw [get?_of_mem_tail hget htail hw] at hbound
    exact Option.some.inj hbound
  · intro h name v hmem
    rcases List.mem_append.1 hmem with hv | hv
    · obtain ⟨_ | ⟨c, sql⟩, ha, hv⟩ := List.mem_flatMap.1 hv
      · next c u =>
        obtain ⟨rfl, rfl⟩ := Prod.mk.inj (List.mem_singleton.1 hv)
        rw [get?_of_mem_assignments hget htail hassignments ha]
        cases hw : Params.lookup (Assignment.boundName c) tail.bindings with
        | none => rfl
        | some w => exact congrArg some (h c v w ha (Params.mem_of_lookup hw))
      · exact absurd hv List.not_mem_nil
    · exact get?_of_mem_tail hget htail hv

end Values

/-- What a server reads is the statement that was meant, except that an assignment has the value of
a comparison that is bound under the same name. So every assignment has the value that was set last
exactly if such comparisons have this value too. -/
theorem Update.read_of_build {s : Schema} {calls : List (String × Value)} {clauses : Clauses}
    {next : Nat} {pool : List Predicate} {q : Query} (hpool : Composed next pool)
    (hfilters : ∀ p ∈ clauses.filters, p ∈ pool) (hcalls : ∀ call ∈ calls, call.2.IsInert)
    (hbuild : (setAll { schema := s, clauses := clauses } calls).build = .ok q) :
    ∃ assignments tail p,
      List.Forall₂ (Assigns s calls) (entryNames calls).eraseDups assignments ∧
      clauses.tail s.table = .ok tail ∧ q.statement.positional = .ok p ∧
      p.read = (template s.table (assignments.map (·.overwrite tail.bindings)) tail).symbols ∧
      (p.read = (template s.table assignments tail).symbols ↔
        ∀ c v w, .bound c v ∈ assignments →
          (Assignment.boundName c, w) ∈ tail.bindings → w = v) := by
  have hnames := @names_setAll { schema := s, clauses := clauses } rfl calls
  have hlookup := @lookup_setAll { schema := s, clauses := clauses } rfl calls
  rw [setAll_eq] at hbuild
  obtain ⟨-, -, hbuild⟩ := bind_eq_ok.1 hbuild
  obtain ⟨-, -, hbuild⟩ := bind_eq_ok.1 hbuild
  obtain ⟨assignments, hassignments, hbuild⟩ := bind_eq_ok.1 hbuild
  obtain ⟨tail, htail, hbuild⟩ := bind_eq_ok.1 hbuild
  cases hbuild
  -- The assignments are those that were asked for.
  have hassigns := forall₂_assigns (hnames ▸ nodup_eraseDups _) hlookup hassignments
  rw [hnames] at hassigns
  -- The statement is written for its template.
  have hpick : ∀ p ∈ tail.filters, p ∈ pool := by
    rw [filters_of_tail htail]
    exact hfilters
  have hsets : ∀ e ∈ ((setAll { schema := s, clauses := clauses } calls).sets), e.2.IsInert := by
    rintro ⟨name, v⟩ he
    have hlast := Params.lookup_of_mem he fun w hw =>
      Params.eq_of_mem_of_nodup (hnames ▸ nodup_eraseDups _) hw he
    rw [hlookup] at hlast
    exact hcalls _ (List.mem_reverse.1 (Params.mem_of_lookup hlast))
  have hinert : ∀ c sql, .random c sql ∈ assignments → Inert sql := fun c sql ha =>
    inert_of_mem_assignments hassignments hsets ha
  have hwrites := writes_statement hpool hpick hinert s.table
  obtain ⟨p, hp, -, hread⟩ := hwrites.exists_positional
  -- Comparisons have one value for each name, and assignments have.
  have hget : ∀ name, (statement s.table assignments tail).params.get? name =
      (Params.lookup name tail.bindings.reverse).or
        (Params.lookup name (assignments.flatMap Assignment.bindings).reverse) := by
    intro name
    rw [hwrites.get?, bindings_updateTemplate, List.reverse_append, Params.lookup_append]
  have hcomparisons : ∀ {name v w}, (name, v) ∈ tail.bindings → (name, w) ∈ tail.bindings →
      v = w := fun hv hw => hpool.eq_of_mem_bindings hpick hv hw
  have hvalues : ∀ {name v w}, (name, v) ∈ assignments.flatMap Assignment.bindings →
      (name, w) ∈ assignments.flatMap Assignment.bindings → v = w :=
    fun hv hw => value_unique hassigns hv hw
  refine ⟨assignments, tail, p, hassigns, htail, hp, ?_, ?_⟩
  · rw [hread, lookUp_updateTemplate hget hcomparisons hvalues]
  · rw [hread, lookUp_symbols_eq_iff fun name => hwrites.isSome_get?.2]
    exact forall_get?_iff hget hcomparisons hvalues s.table

/-! ### A comparison and an assignment under one name -/

namespace Clash

/-- A column of texts in a table with two of them. -/
def column (name : Ident) : Column where
  name := ⟨⟨⟨"s", by decide, by decide⟩, ⟨"t", by decide, by decide⟩⟩, name⟩
  type := .text
  primaryKey := false
  unique := false
  notNull := false
  default := none
  foreignKey := none

/-- The column that is compared. -/
def compared : Column := column ⟨"a", by decide, by decide⟩

/-- The column that is assigned to; it is called like a comparison of the other one. -/
def assigned : Column := column ⟨"a_eq_0", by decide, by decide⟩

def schema : Schema where
  table := compared.table
  columns := [compared, assigned]
  table_eq := by decide
  nodup := by decide

/-- The first comparison that is made. -/
def filter : Predicate := .compare compared .eq (.bound 0 (.text "old"))

theorem composed : Composed 1 [filter] :=
  @Composed.compare 0 1 [] compared (.text "old") (.bound 0 (.text "old")) .eq (.nil 0)
    (fun _ h => Value.noConfusion h) rfl

/-- The value of the filter is assigned in place of the one that was set. -/
theorem read_ne : Composed 1 [filter] ∧ ∃ q tail p,
    (Update.setAll { schema := schema, clauses := { filters := [filter] } }
      [("a_eq_0", .text "new")]).build = .ok q ∧
    q.statement.positional = .ok p ∧
    p.read = (Update.template schema.table [.bound assigned (.text "old")] tail).symbols ∧
    p.read ≠ (Update.template schema.table [.bound assigned (.text "new")] tail).symbols := by
  have hfilters : ∀ p ∈ [filter], p ∈ [filter] := fun p hp => hp
  have hcalls : ∀ call ∈ [("a_eq_0", Value.text "new")], call.2.IsInert := by
    intro call hcall sql hsql
    rw [List.mem_singleton.1 hcall] at hsql
    exact (nomatch hsql)
  obtain ⟨q, hq⟩ : ∃ q, (Update.setAll { schema := schema, clauses := { filters := [filter] } }
      [("a_eq_0", .text "new")]).build = .ok q := ⟨_, rfl⟩
  obtain ⟨assignments, tail, p, hassigns, htail, hp, hread, hiff⟩ :=
    Update.read_of_build composed hfilters hcalls hq
  -- There is one assignment, of the value that was set, and one comparison, under the same name.
  have hassignments : assignments = [.bound assigned (.text "new")] := by
    cases hassigns with
    | cons ha hrest =>
      cases hrest
      exact congrArg (fun a => [a]) (ha.unique ⟨assigned, _, _, rfl, rfl, rfl, rfl⟩)
  have htailBindings : tail.bindings = [("t_a_eq_0", .text "old")] := by
    rw [Tail.bindings, filters_of_tail htail]
    rfl
  subst hassignments
  refine ⟨composed, q, tail, p, hq, hp, ?_, fun heq => ?_⟩
  · rw [hread, htailBindings]
    rfl
  · have hvalue := hiff.1 heq assigned (.text "new") (.text "old") List.mem_cons_self
      (by rw [htailBindings]; exact List.mem_cons_self)
    exact absurd hvalue (by decide)

end Clash

end TypedTable
