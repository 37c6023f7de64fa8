import TypedTable.Proofs.Clauses
import TypedTable.Proofs.Literals.Predicate
/-!
# Clauses that differ in literals

Two lists of clauses are alike if they were asked for by the same calls with alike filters. If none
of them is in error, they pile up to alike clauses (`Clauses.matches_addAll`), which are resolved to
the same text behind the table (`Clauses.Matches.sameText`).
-/

namespace TypedTable

/-- Whether two clauses are asked for by the same call, with filters that are alike unless they
failed. -/
inductive Clause.Alike : Clause → Clause → Prop
  | join {kind : JoinKind} {c c' d d' : Column} (hc : c.Alike c') (hd : d.Alike d') :
      Clause.Alike (.join ⟨kind, c, d⟩) (.join ⟨kind, c', d'⟩)
  | filter {condition condition' : Except Error Predicate}
      (h : ∀ p p', condition = .ok p → condition' = .ok p' → p.Alike p') :
      Clause.Alike (.filter condition) (.filter condition')
  | orderBy {c c' : Column} (h : c.Alike c') : Clause.Alike (.orderBy c) (.orderBy c')
  | ascending (up : Bool) : Clause.Alike (.ascending up) (.ascending up)
  | limit (n : Int) : Clause.Alike (.limit n) (.limit n)
  | offset (n : Int) : Clause.Alike (.offset n) (.offset n)

/-- Whether two joins are of one kind and relate columns of the same names. -/
structure Join.Matches (j j' : Join) : Prop where
  kind : j.kind = j'.kind
  first : j.first.name = j'.first.name
  second : j.second.name = j'.second.name

/-- Whether all clauses have the same names, numbers and texts. -/
structure Clauses.Matches (c c' : Clauses) : Prop where
  joins : List.Forall₂ Join.Matches c.joins c'.joins
  filters : List.Forall₂ Predicate.SameText c.filters c'.filters
  orderBy : c.orderBy.map Column.name = c'.orderBy.map Column.name
  ascending : c.ascending = c'.ascending
  limit : c.limit = c'.limit
  offset : c.offset = c'.offset

/-- Whether all that stands behind a table is the same text, about the same tables, and binds the
same names. -/
structure Tail.SameText (table : TableName) (t t' : Tail) : Prop where
  sql : t.sql = t'.sql
  target : t.target table = t'.target table
  tables : t.tables table = t'.tables table
  filters : List.Forall₂ Predicate.SameText t.filters t'.filters

namespace Clauses

/-! ### Adding clauses -/

theorem error_of_addAll {c : Clauses} {calls : List Clause} (h : (c.addAll calls).error = none) :
    c.error = none := by
  induction calls generalizing c with
  | nil => exact h
  | cons clause calls ih => exact (taken_add (ih h)).1

theorem Matches.add {c c' : Clauses} {clause clause' : Clause} (h : c.Matches c')
    (hclause : clause.Alike clause') (hc : (c.add clause).error = none)
    (hc' : (c'.add clause').error = none) : (c.add clause).Matches (c'.add clause') := by
  obtain ⟨hjoins, hfilters, horderBy, hascending, hlimit, hoffset⟩ := h
  -- Neither clause is in error, so both change the same thing.
  have htaken := (taken_add hc).2
  have htaken' := (taken_add hc').2
  revert htaken htaken'
  generalize c.add clause = d
  generalize c'.add clause' = d'
  intro htaken htaken'
  cases htaken <;> cases hclause <;> cases htaken'
  case join.join.join hfirst hsecond =>
    refine ⟨List.rel_append hjoins (.cons ?_ .nil), hfilters, horderBy, hascending, hlimit, hoffset⟩
    exact ⟨rfl, hfirst.name_eq, hsecond.name_eq⟩
  case filter.filter.filter p p' h =>
    exact ⟨hjoins, List.rel_append hfilters (.cons (h p p' rfl rfl).sameText .nil), horderBy,
      hascending, hlimit, hoffset⟩
  case orderBy.orderBy.orderBy h =>
    exact ⟨hjoins, hfilters, congrArg some h.name_eq, hascending, hlimit, hoffset⟩
  case ascending.ascending.ascending =>
    exact ⟨hjoins, hfilters, horderBy, rfl, hlimit, hoffset⟩
  case limit.limit.limit => exact ⟨hjoins, hfilters, horderBy, hascending, rfl, hoffset⟩
  case offset.offset.offset => exact ⟨hjoins, hfilters, horderBy, hascending, hlimit, rfl⟩

/-- Alike clauses without an error pile up in the same way. -/
theorem Matches.addAll {c c' : Clauses} {calls calls' : List Clause} (h : c.Matches c')
    (hcalls : List.Forall₂ Clause.Alike calls calls') (hc : (c.addAll calls).error = none)
    (hc' : (c'.addAll calls').error = none) : (c.addAll calls).Matches (c'.addAll calls') := by
  induction hcalls generalizing c c' with
  | nil => exact h
  | cons hclause _ ih =>
    exact ih (h.add hclause (error_of_addAll hc) (error_of_addAll hc')) hc hc'

theorem matches_addAll {calls calls' : List Clause}
    (hcalls : List.Forall₂ Clause.Alike calls calls')
    (h : (Clauses.addAll {} calls).check = .ok ()) (h' : (Clauses.addAll {} calls').check = .ok ()) :
    (Clauses.addAll {} calls).Matches (Clauses.addAll {} calls') := by
  have hempty : Matches {} {} := ⟨.nil, .nil, rfl, rfl, rfl, rfl⟩
  exact hempty.addAll hcalls (check_eq_ok.1 h) (check_eq_ok.1 h')

/-! ### Resolving clauses -/

/-- Of the two tables of a join that is resolved exactly one is there before. -/
theorem resolve_cases {scope : List TableName} {j : Join} {r : ResolvedJoin}
    (h : j.resolve scope = .ok r) :
    (scope.contains j.first.table = true ∧ r = ⟨j.kind, j.first, j.second⟩) ∨
      (scope.contains j.first.table = false ∧ r = ⟨j.kind, j.second, j.first⟩) := by
  unfold Join.resolve at h
  split at h
  · next hfirst _ =>
    cases h
    exact .inl ⟨hfirst, rfl⟩
  · next hfirst _ =>
    cases h
    exact .inr ⟨hfirst, rfl⟩
  · cases h
  · cases h

/-- The text of a resolved join shows its kind and the names of its columns. -/
theorem sql_resolvedJoin_congr {r r' : ResolvedJoin} (hkind : r.kind = r'.kind)
    (hanchor : r.anchor.name = r'.anchor.name) (hjoined : r.joined.name = r'.joined.name) :
    r.sql = r'.sql ∧ r.table = r'.table := by
  have htable : r.table = r'.table := congrArg ColumnName.table hjoined
  refine ⟨?_, htable⟩
  rw [ResolvedJoin.sql, ResolvedJoin.sql, htable, Column.sql, Column.sql, Column.sql, Column.sql,
    hkind, hanchor, hjoined]

theorem resolve_congr {scope : List TableName} {j j' : Join} {r r' : ResolvedJoin}
    (h : j.Matches j') (hr : j.resolve scope = .ok r) (hr' : j'.resolve scope = .ok r') :
    r.sql = r'.sql ∧ r.table = r'.table := by
  have hscope : scope.contains j.first.table = scope.contains j'.first.table :=
    congrArg (fun name => scope.contains name.table) h.first
  -- Which table is added depends on the names of the two.
  obtain ⟨hfirst, rfl⟩ | ⟨hfirst, rfl⟩ := resolve_cases hr <;>
    obtain ⟨hfirst', rfl⟩ | ⟨hfirst', rfl⟩ := resolve_cases hr'
  · exact sql_resolvedJoin_congr h.kind h.first h.second
  · rw [hscope, hfirst'] at hfirst
    cases hfirst
  · rw [hscope, hfirst'] at hfirst
    cases hfirst
  · exact sql_resolvedJoin_congr h.kind h.second h.first

theorem resolveAll_congr {scope : List TableName} {joins joins' : List Join}
    {rs rs' : List ResolvedJoin} (h : List.Forall₂ Join.Matches joins joins')
    (hrs : Join.resolveAll scope joins = .ok rs) (hrs' : Join.resolveAll scope joins' = .ok rs') :
    rs.map ResolvedJoin.sql = rs'.map ResolvedJoin.sql ∧
      rs.map ResolvedJoin.table = rs'.map ResolvedJoin.table := by
  induction h generalizing scope rs rs' with
  | nil =>
    cases hrs
    cases hrs'
    exact ⟨rfl, rfl⟩
  | cons hj _ ih =>
    obtain ⟨r, hr, hrs⟩ := bind_eq_ok.1 hrs
    obtain ⟨others, hothers, hrs⟩ := bind_eq_ok.1 hrs
    obtain ⟨r', hr', hrs'⟩ := bind_eq_ok.1 hrs'
    obtain ⟨others', hothers', hrs'⟩ := bind_eq_ok.1 hrs'
    cases hrs
    cases hrs'
    obtain ⟨hsql, htable⟩ := resolve_congr hj hr hr'
    rw [← htable] at hothers'
    obtain ⟨hsqls, htables⟩ := ih hothers hothers'
    simp only [List.map_cons, hsql, htable, hsqls, htables, and_self]

theorem map_sql_order {c : Clauses} {tables : List TableName} {order : Option Order}
    (h : c.order tables = .ok order) :
    order.map Order.sql = (c.orderBy.map Column.name).map fun name =>
      "ORDER BY " ++ name.sql ++ " " ++ if c.ascending then "ASC" else "DESC" := by
  unfold Clauses.order at h
  split at h
  · next hnone =>
    cases h
    rw [hnone]
    rfl
  · next column hsome =>
    split at h
    · cases h
      rw [hsome]
      rfl
    · exact (nomatch h)

theorem condition_congr {t t' : Tail} (h : List.Forall₂ Predicate.SameText t.filters t'.filters) :
    t.condition = t'.condition := by
  have hsql := Predicate.map_sql_congr h
  unfold Tail.condition
  revert hsql h
  cases t.filters <;> cases t'.filters <;> intro h hsql
  · rfl
  · cases h
  · cases h
  · dsimp only
    rw [hsql]

/-- Alike clauses are resolved to the same text. -/
theorem Matches.sameText {c c' : Clauses} {table : TableName} {t t' : Tail} (h : c.Matches c')
    (ht : c.tail table = .ok t) (ht' : c'.tail table = .ok t') : Tail.SameText table t t' := by
  have hplain : t.isPlain = t'.isPlain := by
    have hjoins : c.joins.isEmpty = c'.joins.isEmpty := by
      rw [Bool.eq_iff_iff, List.isEmpty_iff_length_eq_zero, List.isEmpty_iff_length_eq_zero,
        h.joins.length_eq]
    have horderBy : c.orderBy.isNone = c'.orderBy.isNone := by
      rw [← Option.isNone_map (f := Column.name), h.orderBy, Option.isNone_map]
    rw [isPlain_tail ht, isPlain_tail ht', isPlain, isPlain, hjoins, horderBy, h.limit, h.offset]
  obtain ⟨joins, order, hjoins, horder, rfl⟩ := tail_eq_ok ht
  obtain ⟨joins', order', hjoins', horder', rfl⟩ := tail_eq_ok ht'
  obtain ⟨hsqls, htables⟩ := resolveAll_congr h.joins hjoins hjoins'
  have horders : order.map Order.sql = order'.map Order.sql := by
    rw [map_sql_order horder, map_sql_order horder', h.orderBy, h.ascending]
  have hcondition := @condition_congr ⟨joins, c.filters, order, c.limit, c.offset⟩
    ⟨joins', c'.filters, order', c'.limit, c'.offset⟩ h.filters
  have hsql : Tail.sql ⟨joins, c.filters, order, c.limit, c.offset⟩ =
      Tail.sql ⟨joins', c'.filters, order', c'.limit, c'.offset⟩ := by
    rw [Tail.sql, Tail.sql, Tail.parts, Tail.parts, hcondition]
    dsimp only
    rw [hsqls, horders, h.limit, h.offset]
  refine ⟨hsql, ?_, ?_, h.filters⟩
  · rw [Tail.target, Tail.target, hplain, hcondition, hsql]
  · rw [Tail.tables, Tail.tables, htables]

end Clauses

end TypedTable
