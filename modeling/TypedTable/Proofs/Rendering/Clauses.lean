import TypedTable.Proofs.Rendering.Predicate
import TypedTable.Query.Delete
import TypedTable.Query.Select
/-!
# Clauses in statements

The clauses of a query send the values of its filters and nothing else, whether they stand behind
the name of the table (`Tail.template`) or pick its rows in a subquery (`Tail.targetTemplate`).

Statements that select or remove rows consist of their clauses and of names. They are written for
their templates (`Select.writes_statement`, `Delete.writes_statement`).
-/

namespace TypedTable

open Template

/-! ### Clauses without values -/

theorem inert_joinKind (kind : JoinKind) : Inert kind.keyword := by
  cases kind <;> exact inert_of_all (by decide)

theorem inert_join (j : ResolvedJoin) : Inert j.sql := by
  have hon : Inert " ON " := inert_of_all (by decide)
  have heq : Inert " = " := inert_of_all (by decide)
  have htable := ((inert_joinKind j.kind).append (inert_of_all (s := " ") (by decide))).append
    (inert_table j.table)
  exact (((htable.append hon).append (inert_column j.anchor.name)).append heq).append
    (inert_column j.joined.name)

theorem inert_order (o : Order) : Inert o.sql := by
  have hby : Inert "ORDER BY " := inert_of_all (by decide)
  have hdirection : Inert (if o.ascending then "ASC" else "DESC") := by
    split
    · exact inert_of_all (by decide)
    · exact inert_of_all (by decide)
  have hcolumn := (hby.append (inert_column o.column.name)).append
    (inert_of_all (s := " ") (by decide))
  exact hcolumn.append hdirection

/-! ### What clauses are meant to say -/

namespace Tail

/-- The values of the filters, each with its name. -/
def bindings (t : Tail) : List (String × Value) := t.filters.flatMap Predicate.bindings

/-- The condition of a query as it is meant. -/
def conditionTemplate (t : Tail) : List Template :=
  match t.filters with
  | [] => []
  | filters => [ofText "WHERE " ++ separated " AND " (filters.map Predicate.template)]

/-- All clauses as they are meant, in their order. -/
def partTemplates (t : Tail) : List Template :=
  t.joins.map (fun j => ofText j.sql) ++ t.conditionTemplate ++
    (t.order.map fun o => ofText o.sql).toList ++
    (t.limit.map fun n => ofText ("LIMIT " ++ Text.naturalText n)).toList ++
    (t.offset.map fun n => ofText ("OFFSET " ++ Text.naturalText n)).toList

/-- Clauses in a row as they are meant, each with a space in front of it. -/
def spacedTemplate (parts : List Template) : Template := parts.flatMap (ofText " " ++ ·)

/-- All clauses behind the name of the table, as they are meant. -/
def template (t : Tail) : Template := spacedTemplate t.partTemplates

/-- The condition that picks the rows of the table, as it is meant. -/
def targetTemplate (t : Tail) (table : TableName) : Template :=
  if t.isPlain then spacedTemplate t.conditionTemplate
  else
    ofText (" WHERE ctid IN (SELECT " ++ table.sql ++ ".ctid FROM " ++ table.sql) ++ t.template ++
      ofText ")"

/-! ### Their values -/

theorem bindings_spacedTemplate (parts : List Template) :
    (spacedTemplate parts).bindings = parts.flatMap Template.bindings := by
  induction parts with
  | nil => rfl
  | cons part parts ih =>
    rw [spacedTemplate, List.flatMap_cons, bindings_append, bindings_append, bindings_ofText,
      List.nil_append, List.flatMap_cons, ← ih]
    rfl

theorem bindings_conditionTemplate (t : Tail) :
    t.conditionTemplate.flatMap Template.bindings = t.bindings := by
  unfold conditionTemplate bindings
  split
  · next h => rw [h]; rfl
  · simp [List.flatMap_map]
    rfl

theorem bindings_template (t : Tail) : t.template.bindings = t.bindings := by
  have hnone : ∀ {α : Type} (f : α → String) (l : List α),
      (l.map fun a => ofText (f a)).flatMap Template.bindings = [] := by
    intro α f l
    simp [List.flatMap_map]
  rw [template, bindings_spacedTemplate, partTemplates]
  simp only [List.flatMap_append, bindings_conditionTemplate, Option.toList_map, hnone,
    List.append_nil, List.nil_append]

theorem bindings_targetTemplate (t : Tail) (table : TableName) :
    (t.targetTemplate table).bindings = t.bindings := by
  unfold targetTemplate
  split
  · rw [bindings_spacedTemplate, bindings_conditionTemplate]
  · simp only [bindings_append, bindings_ofText, List.nil_append, List.append_nil,
      bindings_template]

/-! ### Their text -/

section Text

variable {t : Tail} (h : ∀ p ∈ t.filters, Renders p.sql p.template)

include h

theorem renders_condition : List.Forall₂ Renders t.condition t.conditionTemplate := by
  have hfilters := forall₂_renders h
  have hand : Inert " AND " := inert_of_all (by decide)
  have hwhere : Inert "WHERE " := inert_of_all (by decide)
  unfold condition conditionTemplate
  cases hf : t.filters with
  | nil => exact .nil
  | cons p filters =>
    rw [hf] at hfilters
    refine .cons (hwhere.append_renders (renders_separated hand ?_ ?_ hfilters)) .nil
    · simp
    · exact endsName_cons.2 rfl

theorem renders_parts : List.Forall₂ Renders t.parts t.partTemplates := by
  have hlimit : ∀ n, Inert ("LIMIT " ++ Text.naturalText n) := fun n =>
    (inert_of_all (by decide)).append (inert_naturalText n)
  have hoffset : ∀ n, Inert ("OFFSET " ++ Text.naturalText n) := fun n =>
    (inert_of_all (by decide)).append (inert_naturalText n)
  unfold parts partTemplates
  simp only [Option.toList_map]
  -- Clause by clause, in the order in which they are written.
  refine List.rel_append (List.rel_append (List.rel_append (List.rel_append ?_ ?_) ?_) ?_) ?_
  · exact forall₂_renders fun j _ => (inert_join j).renders
  · exact renders_condition h
  · exact forall₂_renders fun o _ => (inert_order o).renders
  · exact forall₂_renders fun n _ => (hlimit n).renders
  · exact forall₂_renders fun n _ => (hoffset n).renders

/-- The clauses are read as they are meant, behind anything. -/
theorem renders_sql : Renders t.sql t.template ∧ EndsName t.sql.toList :=
  renders_join (renders_parts h)

theorem renders_target (table : TableName) :
    Renders (t.target table) (t.targetTemplate table) ∧ EndsName (t.target table).toList := by
  unfold target targetTemplate
  split
  · exact renders_join (renders_condition h)
  -- The rows are picked in a subquery, which has the clauses behind the table.
  · have hopen := (((inert_of_all (s := " WHERE ctid IN (SELECT ") (by decide)).append
      (inert_table table)).append (inert_of_all (s := ".ctid FROM ") (by decide))).append
      (inert_table table)
    have hclose : Inert ")" := inert_of_all (by decide)
    have hclauses := (hopen.append_renders (renders_sql h).1).append hclose.renders
      (endsName_cons.2 rfl)
    refine ⟨hclauses, ?_⟩
    simp only [String.append_assoc, String.toList_append]
    exact endsName_cons.2 rfl

end Text

end Tail

/-! ### Statements made of clauses -/

/-- The clauses of a query keep its filters. -/
theorem filters_of_tail {c : Clauses} {table : TableName} {t : Tail} (h : c.tail table = .ok t) :
    t.filters = c.filters := by
  obtain ⟨joins, -, h⟩ := bind_eq_ok.1 h
  obtain ⟨order, -, h⟩ := bind_eq_ok.1 h
  cases h
  rfl

/-- A statement that selects columns, as it is meant. -/
def Select.template (s : Schema) (positions : List (Fin s.columns.length)) (tail : Tail) :
    Template :=
  if positions.isEmpty then []
  else
    ofText ("SELECT " ++ Text.commas (positions.map fun k => (s.get k).sql) ++ " FROM " ++
      s.table.sql) ++ tail.template

/-- A selection sends no values but those of its filters. -/
theorem Select.bindings_template_subset (s : Schema) (positions : List (Fin s.columns.length))
    (tail : Tail) : (Select.template s positions tail).bindings ⊆ tail.bindings := by
  unfold Select.template
  split
  · exact List.nil_subset _
  · rw [bindings_append, bindings_ofText, List.nil_append, Tail.bindings_template]
    exact fun _ hb => hb

/-- A statement that removes rows, as it is meant. -/
def Delete.template (table : TableName) (tail : Tail) : Template :=
  ofText ("DELETE FROM " ++ table.sql) ++ tail.targetTemplate table ++ ofText " RETURNING *"

theorem Delete.bindings_template (table : TableName) (tail : Tail) :
    (Delete.template table tail).bindings = tail.bindings := by
  simp only [Delete.template, bindings_append, bindings_ofText, List.nil_append, List.append_nil,
    Tail.bindings_targetTemplate]

section Statements

variable {next : Nat} {pool : List Predicate} {tail : Tail} (h : Composed next pool)
  (hfilters : ∀ p ∈ tail.filters, p ∈ pool)

include h hfilters

/-- The filters add their values to those that are there. -/
theorem get?_tailParams (before : Params) (name : String) :
    (tail.params before).get? name =
      (Params.lookup name tail.bindings.reverse).or (before.get? name) :=
  get?_paramsAfter (fun p hp => h.bindsLast p (hfilters p hp)) before name

theorem Select.writes_statement (s : Schema) (positions : List (Fin s.columns.length)) :
    (Select.statement s positions tail).Writes (Select.template s positions tail) := by
  unfold Select.statement Select.template
  split
  · exact ⟨renders_empty, fun _ => rfl⟩
  · have hselect : Inert "SELECT " := inert_of_all (by decide)
    have hfrom : Inert " FROM " := inert_of_all (by decide)
    have hcolumns : Inert (Text.commas (positions.map fun k => (s.get k).sql)) := by
      refine inert_commas fun text htext => ?_
      obtain ⟨k, -, rfl⟩ := List.mem_map.1 htext
      exact inert_column _
    -- A selection sends its filters only; the columns in front of them are names.
    have hclauses := (Tail.renders_sql fun p hp => h.renders p (hfilters p hp)).1
    constructor
    · exact (((hselect.append hcolumns).append hfrom).append (inert_table s.table)).append_renders
        hclauses
    · intro name
      rw [bindings_append, bindings_ofText, List.nil_append, Tail.bindings_template,
        get?_tailParams h hfilters, Params.get?_empty, Option.or_none]

theorem Delete.writes_statement (table : TableName) :
    (Delete.statement table tail).Writes (Delete.template table tail) := by
  have hdelete : Inert "DELETE FROM " := inert_of_all (by decide)
  have hreturning : Inert " RETURNING *" := inert_of_all (by decide)
  have htarget := (Tail.renders_target (fun p hp => h.renders p (hfilters p hp)) table).1
  constructor
  · exact ((hdelete.append (inert_table table)).append_renders htarget).append hreturning.renders
      (endsName_cons.2 rfl)
  · intro name
    show (tail.params .empty).get? name = _
    rw [Delete.bindings_template, get?_tailParams h hfilters, Params.get?_empty, Option.or_none]

end Statements

end TypedTable
