import Mathlib.Data.List.FinRange
import TypedTable.Proofs.Clauses
import TypedTable.Proofs.Params
import TypedTable.Proofs.Update
/-!
# Which rows a statement is about

The same clauses can be given to a selection, an update and a removal. `build_agree` compares the
three: they are refused for the same reason, or they have the same tables and filter parameters, and
the condition of the update and of the removal is made of all that stands behind the table in the
selection (`rowCondition`). It is that text itself if nothing but filters was asked for, and else a
subquery that has it.
-/

namespace TypedTable

/-- The condition that picks the rows which a selection gives, from the clauses that were asked for
and the text behind the table in the selection. -/
def rowCondition (table : TableName) (calls : List Clause) (rest : String) : String :=
  if calls.all Clause.isFiltering then rest
  else " WHERE ctid IN (SELECT " ++ table.sql ++ ".ctid FROM " ++ table.sql ++ rest ++ ")"

/-- Whether a table has a column of this name that takes the value. -/
def Schema.Takes (s : Schema) (set : String × Value) : Prop :=
  ∃ c w, s.column set.1 = .ok c ∧ c.validate set.2 = .ok w

/-- Filters alone are all that stands behind the table. -/
theorem Tail.sql_of_isPlain {t : Tail} (h : t.isPlain = true) : t.sql = spaced t.condition := by
  obtain ⟨⟨⟨hjoins, horder⟩, hlimit⟩, hoffset⟩ :
      ((t.joins = [] ∧ t.order = none) ∧ t.limit = none) ∧ t.offset = none := by
    simpa [isPlain] using h
  simp [sql, parts, hjoins, horder, hlimit, hoffset]

/-- The rows are picked by the text that a selection has behind the table. -/
theorem Tail.target_eq_rowCondition {calls : List Clause} {table : TableName} {t : Tail}
    (hcheck : (Clauses.addAll {} calls).check = .ok ())
    (htail : (Clauses.addAll {} calls).tail table = .ok t) :
    t.target table = rowCondition table calls t.sql := by
  have hplain : t.isPlain = calls.all Clause.isFiltering := by
    rw [Clauses.isPlain_tail htail, Clauses.isPlain_addAll (Clauses.check_eq_ok.1 hcheck)]
  unfold target rowCondition
  rw [hplain]
  split
  · next hall => rw [t.sql_of_isPlain (hplain.trans hall)]
  · rfl

/-- A selection of all columns has a text. -/
theorem Select.statement_finRange {s : Schema} (h : s.columns ≠ []) (tail : Tail) :
    Select.statement s (List.finRange s.columns.length) tail =
      ⟨"SELECT " ++ Text.commas (s.columns.map Column.sql) ++ " FROM " ++ s.table.sql ++ tail.sql,
        tail.params .empty⟩ := by
  have hpositions : (List.finRange s.columns.length).isEmpty = false := by
    simpa [List.isEmpty_eq_false_iff, List.finRange_eq_nil_iff] using h
  have hcolumns : (List.finRange s.columns.length).map (fun k => (s.get k).sql) =
      s.columns.map Column.sql := by
    conv_rhs => rw [← List.map_get_finRange s.columns, List.map_map]
    rfl
  rw [Select.statement, hpositions, hcolumns]
  rfl

/-- Sets that the table takes have assignments. -/
theorem exists_assignments {s : Schema} {sets : List (String × Value)}
    (h : ∀ set ∈ sets, s.Takes set) :
    ∃ assignments, sets.mapM (Update.assignment s) = .ok assignments := by
  refine exists_mapM_eq_ok fun set hset => ?_
  obtain ⟨c, w, hc, hw⟩ := h set hset
  exact ⟨.ofValue c w, assignment_eq_ok.2 ⟨c, w, hc, hw, rfl⟩⟩

/-- Whether a selection, a removal and an update are about the same rows: about the same tables, with
the parameters of the selection, to which the update adds those of its assignments, and with the text
behind the table in the selection as the condition. -/
structure SameRows (s : Schema) (sets : List (String × Value)) (calls : List Clause)
    (selection : SelectQuery) (removal update : Query) : Prop where
  tables_removal : removal.tables = selection.tables
  tables_update : update.tables = selection.tables
  params_removal : removal.statement.params = selection.statement.params
  exists_rest : ∃ rest assignments,
    selection.statement.sql = "SELECT " ++ Text.commas (s.columns.map Column.sql) ++ " FROM " ++
      s.table.sql ++ rest ∧
    removal.statement.sql = "DELETE FROM " ++ s.table.sql ++ rowCondition s.table calls rest ++
      " RETURNING *" ∧
    List.Forall₂ (fun set a => Update.assignment s set = .ok a) sets assignments ∧
    update.statement.sql = "UPDATE " ++ s.table.sql ++ " SET " ++
      Text.commas (assignments.map Assignment.sql) ++ rowCondition s.table calls rest ++
      " RETURNING *" ∧
    update.statement.params =
      (assignments.foldl Assignment.addTo .empty).merge selection.statement.params

/-- What the three statements are for clauses that have been resolved. -/
theorem sameRows_of_tail {s : Schema} (hcolumns : s.columns ≠ []) {sets : List (String × Value)}
    {calls : List Clause} {assignments : List Assignment} {tail : Tail}
    (hassignments : sets.mapM (Update.assignment s) = .ok assignments)
    (hcheck : (Clauses.addAll {} calls).check = .ok ())
    (htail : (Clauses.addAll {} calls).tail s.table = .ok tail) :
    SameRows s sets calls
      ⟨⟨Select.statement s (List.finRange s.columns.length) tail, tail.tables s.table⟩, s,
        List.finRange s.columns.length⟩
      ⟨Delete.statement s.table tail, tail.tables s.table⟩
      ⟨Update.statement s.table assignments tail, tail.tables s.table⟩ := by
  have htarget := Tail.target_eq_rowCondition hcheck htail
  have hselect := Select.statement_finRange hcolumns tail
  refine ⟨rfl, rfl, ?_, tail.sql, assignments, ?_, ?_, mapM_eq_ok_iff.1 hassignments, ?_, ?_⟩
  · rw [hselect]
    rfl
  · rw [hselect]
  · rw [← htarget]
    rfl
  · rw [← htarget]
    rfl
  · rw [hselect]
    exact paramsAfter_eq_merge _ tail.filters

/-- A selection of all columns, a removal, and an update with sets that the table takes, all with the
same clauses, are refused for the same reason, or they are all built and about the same rows. -/
theorem build_agree {s : Schema} (hcolumns : s.columns ≠ []) {sets : List (String × Value)}
    (hsets : sets ≠ []) (htakes : ∀ set ∈ sets, s.Takes set) (calls : List Clause) :
    (∃ e, Select.build { schema := s, clauses := Clauses.addAll {} calls } = .error e ∧
      Delete.build { schema := s, clauses := Clauses.addAll {} calls } = .error e ∧
      Update.build { schema := s, sets := sets, clauses := Clauses.addAll {} calls } =
        .error e) ∨
    ∃ selection removal update,
      Select.build { schema := s, clauses := Clauses.addAll {} calls } = .ok selection ∧
      Delete.build { schema := s, clauses := Clauses.addAll {} calls } = .ok removal ∧
      Update.build { schema := s, sets := sets, clauses := Clauses.addAll {} calls } =
        .ok update ∧
      SameRows s sets calls selection removal update := by
  obtain ⟨assignments, hassignments⟩ := exists_assignments htakes
  have hset : Update.checkSets ⟨s, sets, Clauses.addAll {} calls⟩ = .ok () := by
    rw [Update.checkSets, if_neg (by simpa using hsets)]
  unfold Select.build Delete.build Update.build
  -- All three ask for an error of a clause first and resolve the clauses last; what the update asks
  -- in between does not fail.
  cases hcheck : (Clauses.addAll {} calls).check with
  | error e => exact .inl ⟨e, rfl, rfl, rfl⟩
  | ok _ =>
    cases htail : (Clauses.addAll {} calls).tail s.table with
    | error e =>
      refine .inl ⟨e, rfl, rfl, ?_⟩
      rw [hset]
      show (sets.mapM (Update.assignment s) >>= _) = _
      rw [hassignments]
      rfl
    | ok tail =>
      refine .inr ⟨_, _, _, rfl, rfl, ?_, sameRows_of_tail hcolumns hassignments hcheck htail⟩
      rw [hset]
      show (sets.mapM (Update.assignment s) >>= _) = _
      rw [hassignments]
      rfl

/-- A limit is kept by a subquery. -/
theorem build_agree_limit : ∃ selection removal update rest,
    Select.build { schema := Clash.schema, clauses := Clauses.addAll {} [.limit 1] } =
      .ok selection ∧
    SameRows Clash.schema [("a", .text "new")] [.limit 1] selection removal update ∧
    selection.statement.sql = "SELECT " ++ Text.commas (Clash.schema.columns.map Column.sql) ++
      " FROM " ++ Clash.schema.table.sql ++ rest ∧
    removal.statement.sql = "DELETE FROM " ++ Clash.schema.table.sql ++
      (" WHERE ctid IN (SELECT " ++ Clash.schema.table.sql ++ ".ctid FROM " ++
        Clash.schema.table.sql ++ rest ++ ")") ++ " RETURNING *" := by
  have htakes : ∀ set ∈ [("a", Value.text "new")], Clash.schema.Takes set := by
    intro set hset
    rw [List.mem_singleton.1 hset]
    exact ⟨Clash.compared, .text "new", rfl, rfl⟩
  rcases build_agree (s := Clash.schema) (List.cons_ne_nil _ _) (List.cons_ne_nil _ _) htakes
    [.limit 1] with ⟨e, he, -⟩ | ⟨selection, removal, update, hselection, -, -, hsame⟩
  · cases he
  · obtain ⟨rest, _, hselect, hremoval, -⟩ := hsame.exists_rest
    exact ⟨selection, removal, update, rest, hselection, hsame, hselect, hremoval⟩

end TypedTable
