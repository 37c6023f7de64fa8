import TypedTable.Proofs.BackFill.Execution
import TypedTable.Proofs.Literals.Clauses
import TypedTable.Proofs.Literals.Insertion
import TypedTable.Proofs.Targets
/-!
# Literals stay out of the text

A query is made by calls: a table is declared, columns are compared and the comparisons put together,
clauses are added, slots and columns are set, and then it is built (`Calls`). If the same calls are
made twice with other literals (`Calls.Alike`) and both queries are built, then they have the same
text, the same tables and the same names of parameters, and the texts with numbers are the same
(`Calls.sameText_of_query`). What is sent as text tells nothing of the literals.
-/

namespace TypedTable

/-- The calls that make a query. -/
inductive Calls
  | select (s : Schema) (columns : List Column) (clauses : List Clause)
  | insert (s : Schema) (rows : List Instance) (policy : ConflictPolicy) (e : Batch.Evaluations)
  | update (s : Schema) (sets : List (String × Value)) (clauses : List Clause)
  | delete (s : Schema) (clauses : List Clause)

/-- Whether the same columns are set to alike values. -/
abbrev SetsAlike (sets sets' : List (String × Value)) : Prop :=
  List.Forall₂ (fun e e' => e.1 = e'.1 ∧ e.2.Alike e'.2) sets sets'

namespace Calls

/-- The query that is built. -/
def query : Calls → Except Error Query
  | select s columns clauses =>
    (Select.build ⟨s, columns, .addAll {} clauses⟩).map (·.toQuery)
  | insert s rows policy e => (Insert.build ⟨s, rows, policy, e⟩).map (·.toQuery)
  | update s sets clauses =>
    (Update.setAll { schema := s, clauses := .addAll {} clauses } sets).build
  | delete s clauses => Delete.build { schema := s, clauses := .addAll {} clauses }

/-- Whether two queries are made by the same calls with alike values. Rows are written with alike
defaults, and if they are to be replaced, the same ones share keys that are known. -/
inductive Alike : Calls → Calls → Prop
  | select {s s' : Schema} {columns columns' : List Column} {clauses clauses' : List Clause}
      (hs : s.Alike s') (hcolumns : List.Forall₂ Column.Alike columns columns')
      (hclauses : List.Forall₂ Clause.Alike clauses clauses') :
      Alike (.select s columns clauses) (.select s' columns' clauses')
  | insert {s s' : Schema} {rows rows' : List Instance} {policy : ConflictPolicy}
      {e e' : Batch.Evaluations} (hs : s.Alike s') (hrows : List.Forall₂ Instance.Alike rows rows')
      (hdefaults : ∀ n < rows.length, s.DefaultsAlike s' (e.bound n) (e'.bound n))
      (hshares : policy = .upsert →
        Batch.SharesAlike s s' (Batch.entries e rows) (Batch.entries e' rows')) :
      Alike (.insert s rows policy e) (.insert s' rows' policy e')
  | update {s s' : Schema} {sets sets' : List (String × Value)} {clauses clauses' : List Clause}
      (hs : s.Alike s') (hsets : SetsAlike sets sets')
      (hclauses : List.Forall₂ Clause.Alike clauses clauses') :
      Alike (.update s sets clauses) (.update s' sets' clauses')
  | delete {s s' : Schema} {clauses clauses' : List Clause} (hs : s.Alike s')
      (hclauses : List.Forall₂ Clause.Alike clauses clauses') :
      Alike (.delete s clauses) (.delete s' clauses')

end Calls

/-- Alike clauses of one table are resolved to the same text. -/
theorem sameText_tail {s s' : Schema} {clauses clauses' : List Clause} (hs : s.Alike s')
    (hclauses : List.Forall₂ Clause.Alike clauses clauses') {tail tail' : Tail}
    (hcheck : (Clauses.addAll {} clauses).check = .ok ())
    (hcheck' : (Clauses.addAll {} clauses').check = .ok ())
    (htail : (Clauses.addAll {} clauses).tail s.table = .ok tail)
    (htail' : (Clauses.addAll {} clauses').tail s'.table = .ok tail') :
    Tail.SameText s.table tail tail' := by
  rw [← hs.matches.table] at htail'
  exact (Clauses.matches_addAll hclauses hcheck hcheck').sameText htail htail'

/-! ### Selections -/

theorem position_eq_ok {s : Schema} {c : Column} {k : Fin s.columns.length}
    (h : Select.position s c = .ok k) : (s.get k).name = c.name := by
  unfold Select.position at h
  split at h
  · next hfind =>
    cases h
    exact of_decide_eq_true (List.findFinIdx?_eq_some_iff.1 hfind).1
  · exact (nomatch h)

/-- The names of the columns that are asked for, of all if none is. -/
theorem map_name_positions {q : Select} {positions : List (Fin q.schema.columns.length)}
    (h : q.positions = .ok positions) :
    positions.map (fun k => (q.schema.get k).name) =
      (if q.columns = [] then q.schema.columns else q.columns).map Column.name := by
  unfold Select.positions at h
  split at h
  · next hnil =>
    cases h
    rw [if_pos hnil]
    conv_rhs => rw [← List.map_get_finRange q.schema.columns, List.map_map]
    rfl
  · next hne =>
    rw [if_neg hne]
    exact (map_eq_of_forall₂ ((mapM_eq_ok_iff.1 h).imp fun c k hk => (position_eq_ok hk).symm)).symm

theorem sameText_select {s s' : Schema} {columns columns' : List Column}
    {clauses clauses' : List Clause} (hs : s.Alike s')
    (hcolumns : List.Forall₂ Column.Alike columns columns')
    (hclauses : List.Forall₂ Clause.Alike clauses clauses') {b b' : SelectQuery}
    (hb : Select.build ⟨s, columns, .addAll {} clauses⟩ = .ok b)
    (hb' : Select.build ⟨s', columns', .addAll {} clauses'⟩ = .ok b') :
    b.statement.SameText b'.statement ∧ b.tables = b'.tables := by
  obtain ⟨⟨⟩, hcheck, hb⟩ := bind_eq_ok.1 hb
  obtain ⟨positions, hpositions, hb⟩ := bind_eq_ok.1 hb
  obtain ⟨tail, htail, hb⟩ := bind_eq_ok.1 hb
  obtain ⟨⟨⟩, hcheck', hb'⟩ := bind_eq_ok.1 hb'
  obtain ⟨positions', hpositions', hb'⟩ := bind_eq_ok.1 hb'
  obtain ⟨tail', htail', hb'⟩ := bind_eq_ok.1 hb'
  cases hb
  cases hb'
  have htable := hs.matches.table
  have htext := sameText_tail hs hclauses hcheck hcheck' htail htail'
  -- The columns are asked for under the same names.
  have hnames : positions.map (fun k => (s.get k).name) =
      positions'.map (fun k => (s'.get k).name) := by
    have hnil : columns = [] ↔ columns' = [] := by
      rw [← List.length_eq_zero_iff, hcolumns.length_eq, List.length_eq_zero_iff]
    refine (map_name_positions hpositions).trans (.trans ?_ (map_name_positions hpositions').symm)
    dsimp only
    by_cases hempty : columns = []
    · rw [if_pos hempty, if_pos (hnil.1 hempty)]
      exact hs.map_eq fun _ => rfl
    · rw [if_neg hempty, if_neg fun h => hempty (hnil.2 h)]
      exact map_eq_of_forall₂ (hcolumns.imp fun _ _ hc => hc.name_eq)
  have hsqls : positions.map (fun k => (s.get k).sql) =
      positions'.map (fun k => (s'.get k).sql) := by
    have hmap := congrArg (List.map ColumnName.sql) hnames
    rwa [List.map_map, List.map_map] at hmap
  have hempty : positions.isEmpty = positions'.isEmpty := by
    rw [← List.isEmpty_map (f := fun k => (s.get k).name), hnames, List.isEmpty_map]
  have hparams : (tail.params .empty).names = (tail'.params .empty).names :=
    names_paramsAfter_congr rfl htext.filters
  dsimp only
  refine ⟨?_, ?_⟩
  · unfold Select.statement
    rw [hempty]
    split
    · exact ⟨rfl, rfl⟩
    · exact ⟨by simp only [hsqls, htable, htext.sql], hparams⟩
  · rw [← htable]
    exact htext.tables

/-! ### Changes and removals -/

theorem setsAlike_setEntry {name : String} {v v' : Value} {sets sets' : List (String × Value)}
    (hv : v.Alike v') (h : SetsAlike sets sets') :
    SetsAlike (Update.setEntry name v sets) (Update.setEntry name v' sets') := by
  induction h with
  | nil => exact .cons ⟨rfl, hv⟩ .nil
  | @cons e e' sets sets' he hrest ih =>
    obtain ⟨k, w⟩ := e
    obtain ⟨k', w'⟩ := e'
    obtain ⟨hk, hw⟩ := he
    obtain rfl : k = k' := hk
    rw [Update.setEntry, Update.setEntry]
    split
    · exact .cons ⟨rfl, hv⟩ hrest
    · exact .cons ⟨rfl, hw⟩ ih

/-- Setting the same columns to alike values keeps what is set alike. -/
theorem setsAlike_setAll {q q' : Update} {calls calls' : List (String × Value)}
    (h : SetsAlike q.sets q'.sets) (hcalls : SetsAlike calls calls') :
    SetsAlike (q.setAll calls).sets (q'.setAll calls').sets := by
  induction hcalls generalizing q q' with
  | nil => exact h
  | @cons e e' calls calls' he _ ih =>
    obtain ⟨k, w⟩ := e
    obtain ⟨k', w'⟩ := e'
    obtain ⟨hk, hw⟩ := he
    obtain rfl : k = k' := hk
    exact ih (setsAlike_setEntry hw h)

/-- A value is assigned as SQL text if it is one, and otherwise bound. -/
theorem ofValue_cases (c : Column) (w : Value) :
    (∃ sql, w = .random sql ∧ Assignment.ofValue c w = .random c sql) ∨
      w.random? = none ∧ Assignment.ofValue c w = .bound c w := by
  cases w with
  | random sql => exact .inl ⟨sql, rfl, rfl⟩
  | _ => exact .inr ⟨rfl, rfl⟩

/-- Whether two assignments have the same text and bind the same names. -/
structure Assignment.SameText (a a' : Assignment) : Prop where
  sql : a.sql = a'.sql
  names : entryNames a.bindings = entryNames a'.bindings

/-- Assignments of alike values have the same text and names. -/
theorem sameText_assignment {s s' : Schema} (hs : s.Alike s') {e e' : String × Value}
    {a a' : Assignment} (he : e.1 = e'.1 ∧ e.2.Alike e'.2)
    (h : Update.assignment s e = .ok a) (h' : Update.assignment s' e' = .ok a') :
    a.SameText a' := by
  obtain ⟨name, v⟩ := e
  obtain ⟨name', v'⟩ := e'
  obtain ⟨hname, hv⟩ := he
  obtain rfl : name = name' := hname
  obtain ⟨c, w, hc, hw, rfl⟩ := assignment_eq_ok.1 h
  obtain ⟨c', w', hc', hw', rfl⟩ := assignment_eq_ok.1 h'
  have hcolumn : c.name = c'.name := Column.Alike.name_eq ⟨s, s', name, hs, hc, hc'⟩
  have hident : c.ident.sql = c'.ident.sql := by rw [Column.ident, Column.ident, hcolumn]
  have hbound : Assignment.boundName c = Assignment.boundName c' := by
    rw [Assignment.boundName, Assignment.boundName, Column.table, Column.table, Column.ident,
      Column.ident, hcolumn]
  have halike : w.Alike w' :=
    (Column.alike_of_validate hw).trans (Eq.trans hv (Column.alike_of_validate hw').symm)
  obtain ⟨sql, rfl, ha⟩ | ⟨hw, ha⟩ := ofValue_cases c w <;> rw [ha]
  · obtain ⟨sql', rfl, ha'⟩ | ⟨hw', -⟩ := ofValue_cases c' w'
    · cases halike
      rw [ha']
      exact ⟨by rw [Assignment.sql, Assignment.sql, hident], rfl⟩
    · rw [← halike] at hw'
      cases hw'
  · obtain ⟨sql', rfl, -⟩ | ⟨-, ha'⟩ := ofValue_cases c' w'
    · rw [halike] at hw
      cases hw
    · rw [ha']
      exact ⟨by rw [Assignment.sql, Assignment.sql, hident, hbound],
        congrArg (fun name => [name]) hbound⟩

theorem sameText_update {s s' : Schema} {sets sets' : List (String × Value)}
    {clauses clauses' : List Clause} (hs : s.Alike s') (hsets : SetsAlike sets sets')
    (hclauses : List.Forall₂ Clause.Alike clauses clauses') {b b' : Query}
    (hb : (Update.setAll { schema := s, clauses := .addAll {} clauses } sets).build = .ok b)
    (hb' : (Update.setAll { schema := s', clauses := .addAll {} clauses' } sets').build =
      .ok b') : b.statement.SameText b'.statement ∧ b.tables = b'.tables := by
  have hall := @setsAlike_setAll { schema := s, clauses := .addAll {} clauses }
    { schema := s', clauses := .addAll {} clauses' } _ _ .nil hsets
  rw [Update.setAll_eq] at hb hb'
  obtain ⟨⟨⟩, hcheck, hb⟩ := bind_eq_ok.1 hb
  obtain ⟨-, -, hb⟩ := bind_eq_ok.1 hb
  obtain ⟨assignments, hassignments, hb⟩ := bind_eq_ok.1 hb
  obtain ⟨tail, htail, hb⟩ := bind_eq_ok.1 hb
  obtain ⟨⟨⟩, hcheck', hb'⟩ := bind_eq_ok.1 hb'
  obtain ⟨-, -, hb'⟩ := bind_eq_ok.1 hb'
  obtain ⟨assignments', hassignments', hb'⟩ := bind_eq_ok.1 hb'
  obtain ⟨tail', htail', hb'⟩ := bind_eq_ok.1 hb'
  cases hb
  cases hb'
  have htable := hs.matches.table
  have htext := sameText_tail hs hclauses hcheck hcheck' htail htail'
  have hsame : List.Forall₂ Assignment.SameText assignments assignments' :=
    forall₂_of_mapM hall hassignments hassignments' fun he h h' => sameText_assignment hs he h h'
  have hsql := map_eq_of_forall₂ (hsame.imp fun _ _ ha => ha.sql)
  have hbound : (assignments.foldl Assignment.addTo .empty).names =
      (assignments'.foldl Assignment.addTo .empty).names := by
    rw [Params.foldl_eq_insertAll Assignment.addTo_eq, Params.foldl_eq_insertAll Assignment.addTo_eq]
    exact names_insertAll_congr (entryNames_flatMap_congr (hsame.imp fun _ _ ha => ha.names))
  have hparams := names_paramsAfter_congr hbound htext.filters
  dsimp only
  rw [← htable]
  refine ⟨⟨?_, hparams⟩, htext.tables⟩
  simp only [Update.statement, hsql, htext.target]

theorem sameText_delete {s s' : Schema} {clauses clauses' : List Clause} (hs : s.Alike s')
    (hclauses : List.Forall₂ Clause.Alike clauses clauses') {b b' : Query}
    (hb : Delete.build { schema := s, clauses := .addAll {} clauses } = .ok b)
    (hb' : Delete.build { schema := s', clauses := .addAll {} clauses' } = .ok b') :
    b.statement.SameText b'.statement ∧ b.tables = b'.tables := by
  obtain ⟨⟨⟩, hcheck, hb⟩ := bind_eq_ok.1 hb
  obtain ⟨tail, htail, hb⟩ := bind_eq_ok.1 hb
  obtain ⟨⟨⟩, hcheck', hb'⟩ := bind_eq_ok.1 hb'
  obtain ⟨tail', htail', hb'⟩ := bind_eq_ok.1 hb'
  cases hb
  cases hb'
  have htable := hs.matches.table
  have htext := sameText_tail hs hclauses hcheck hcheck' htail htail'
  have hparams : (tail.params .empty).names = (tail'.params .empty).names :=
    names_paramsAfter_congr rfl htext.filters
  dsimp only
  rw [← htable]
  refine ⟨⟨?_, hparams⟩, htext.tables⟩
  simp only [Delete.statement, htext.target]

/-! ### Texts with numbers -/

/-- The text with numbers depends on the text and the names of the parameters only. -/
theorem Statement.SameText.positional {s s' : Statement} (h : s.SameText s') :
    s.positional.map Positional.sql = s'.positional.map Positional.sql := by
  have hunbound : s.isUnbound = s'.isUnbound := by
    funext name
    have hnames : (s.params.get? name).isSome = (s'.params.get? name).isSome := by
      rw [Bool.eq_iff_iff, ← Params.mem_names_iff, ← Params.mem_names_iff, h.names]
    rw [isUnbound, isUnbound, ← Option.not_isSome, hnames, Option.not_isSome]
  have hnames : Statement.names s = Statement.names s' := by
    rw [Statement.names, Statement.names, h.sql]
  have htext : s.numberedText = s'.numberedText := by
    rw [numberedText, numberedText, hnames, h.sql]
  rw [positional_eq, positional_eq, hunbound, htext, h.sql]
  split <;> rfl

/-! ### All queries -/

/-- If the same calls are made with other literals, and both queries are built, they have the same
text, the same tables and the same names of parameters, and the texts with numbers are the same. -/
theorem Calls.sameText_of_query {calls calls' : Calls} (h : calls.Alike calls') {q q' : Query}
    (hq : calls.query = .ok q) (hq' : calls'.query = .ok q') :
    q.statement.sql = q'.statement.sql ∧ q.tables = q'.tables ∧
      q.statement.params.names = q'.statement.params.names ∧
      q.statement.positional.map Positional.sql = q'.statement.positional.map Positional.sql := by
  have hsame : q.statement.SameText q'.statement ∧ q.tables = q'.tables := by
    cases h with
    | select hs hcolumns hclauses =>
      obtain ⟨b, hb, rfl⟩ := map_eq_ok.1 hq
      obtain ⟨b', hb', rfl⟩ := map_eq_ok.1 hq'
      exact sameText_select hs hcolumns hclauses hb hb'
    | insert hs hrows hdefaults hshares =>
      obtain ⟨b, hb, rfl⟩ := map_eq_ok.1 hq
      obtain ⟨b', hb', rfl⟩ := map_eq_ok.1 hq'
      refine ⟨Insert.sameText_of_build hs hrows hdefaults hshares hb hb', ?_⟩
      rw [Insert.tables_of_build hb, Insert.tables_of_build hb']
      exact congrArg (fun table => [table]) hs.matches.table
    | update hs hsets hclauses => exact sameText_update hs hsets hclauses hq hq'
    | delete hs hclauses => exact sameText_delete hs hclauses hq hq'
  obtain ⟨htext, htables⟩ := hsame
  exact ⟨htext.sql, htables, htext.names, htext.positional⟩

/-! ### An update with a default, a set and a filter -/

namespace Literal

/-- A table whose column has a default. -/
def schema (default : String) : Schema where
  table := Defaulted.table
  columns := [{ Defaulted.label with default := some (.constant (.text default)) }]
  table_eq := by simp [Defaulted.label, Column.table]
  nodup := by simp

/-- The declaration of the table. -/
def columns (default : String) : List ColumnDef :=
  [{ name := "name", type := .text, default := some (.constant (.text default)) }]

/-- The comparison of the column with a text. -/
def filter (default text : String) : Predicate :=
  .compare { Defaulted.label with default := some (.constant (.text default)) } .eq
    (.bound 0 (.text text))

/-- The column is set where it has another value. -/
def calls (default new old : String) : Calls :=
  .update (schema default) [("name", .text new)] [.filter (.ok (filter default old))]

theorem schema_alike : (schema "x").Alike (schema "y") :=
  have hdefs : List.Forall₂ ColumnDef.Alike (columns "x") (columns "y") := .cons rfl .nil
  have hdeclare : Schema.declare "public" "users" (columns "x") = .ok (schema "x") := by decide
  have hdeclare' : Schema.declare "public" "users" (columns "y") = .ok (schema "y") := by decide
  .declare hdefs hdeclare hdeclare'

theorem calls_alike : (calls "x" "a" "b").Alike (calls "y" "c" "d") := by
  refine .update schema_alike (.cons ⟨rfl, rfl⟩ .nil) (.cons (.filter fun p p' hp hp' => ?_) .nil)
  cases hp
  cases hp'
  have hr : ColumnRef.Alike ⟨schema "x", "name"⟩ ⟨schema "y", "name"⟩ := ⟨schema_alike, rfl⟩
  have hx : Comparand.Alike (.value (.text "b")) (.value (.text "d")) := .value rfl
  exact @Predicate.Alike.compare .eq _ _ _ _ 0 _ _ _ _ hr hx rfl rfl

/-- Two updates with different literals have the same text. -/
theorem sameText_calls : ∃ q q',
    (calls "x" "a" "b").query = .ok q ∧ (calls "y" "c" "d").query = .ok q' ∧
      q.statement.sql = q'.statement.sql ∧ q.tables = q'.tables ∧
      q.statement.params.names = q'.statement.params.names ∧
      q.statement.positional.map Positional.sql = q'.statement.positional.map Positional.sql := by
  obtain ⟨q, hq⟩ : ∃ q, (calls "x" "a" "b").query = .ok q := ⟨_, rfl⟩
  obtain ⟨q', hq'⟩ : ∃ q', (calls "y" "c" "d").query = .ok q' := ⟨_, rfl⟩
  exact ⟨q, q', hq, hq', Calls.sameText_of_query calls_alike hq hq'⟩

end Literal

end TypedTable
