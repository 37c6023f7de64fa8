import TypedTable.Clauses
import TypedTable.Proofs.Reader.Parser
/-!
# Filters are read as they are meant

The condition of a query holds all of its filters (`Tail.condition`), each put together from
comparisons and tests for null by conjunctions, disjunctions and negations to any depth
(`Predicate.IsTree`). Every such predicate has a text that is read as the predicate is meant,
wherever it stands (`Predicate.IsTree.means`): a comparison binds more strongly than all that can
stand around it, and everything else is in brackets. So the condition is read as the conjunction of
all filters, and of the values that are bound under one name the last one counts
(`Tail.condition_reads`).
-/

namespace TypedTable

open Reading

/-- Whether a predicate is put together from comparisons of columns with columns or bound values and
from tests for null. -/
inductive Predicate.IsTree : Predicate → Prop
  | compare (column : Column) (comparator : Comparator) {operand : Operand}
      (h : ∀ sql, operand ≠ .random sql) : Predicate.IsTree (.compare column comparator operand)
  | isNull (column : Column) : Predicate.IsTree (.isNull column)
  | isNotNull (column : Column) : Predicate.IsTree (.isNotNull column)
  | all {parts : List Predicate} (h : ∀ p ∈ parts, Predicate.IsTree p) :
      Predicate.IsTree (.all parts)
  | any {parts : List Predicate} (h : ∀ p ∈ parts, Predicate.IsTree p) :
      Predicate.IsTree (.any parts)
  | not {part : Predicate} (h : Predicate.IsTree part) : Predicate.IsTree (.not part)

/-- The condition that a query states. Without any it selects all rows. -/
def readCondition : List String → Option Expr
  | [] => some (.constant true)
  | [clause] =>
    match tokens clause with
    | .filter :: ts => parse ts
    | _ => none
  | _ => none

/-- Without brackets, comparisons and tests for null go first, then NOT, AND and OR. -/
example : readCondition ["WHERE NOT \"a\" = :x AND \"b\" IS NULL OR TRUE"] =
    some (.join .or
      (.join .and (.not (.compare .eq (.column ["a"]) (.value "x"))) (.isNull (.column ["b"])))
      (.constant true)) := by
  decide

/-! ### Texts with a meaning -/

/-- Whether a text has tokens that are read as the expression. -/
def Means (sql : String) (e : Expr) : Prop := ∃ ts, Spells sql ts ∧ ReadsAs ts e

/-- Texts that are read as expressions have tokens that are. -/
theorem exists_tokens {ss : List String} {es : List Expr} (h : List.Forall₂ Means ss es) :
    ∃ tss, List.Forall₂ Spells ss tss ∧ List.Forall₂ ReadsAs tss es := by
  induction h with
  | nil => exact ⟨[], .nil, .nil⟩
  | cons hs _ ih =>
    obtain ⟨ts, hspells, hreads⟩ := hs
    obtain ⟨tss, hall, hrest⟩ := ih
    exact ⟨ts :: tss, .cons hspells hall, .cons hreads hrest⟩

theorem whole_connective (c : Connective) : Whole (" " ++ c.word ++ " ") [.join c] := by
  cases c <;> decide

theorem beginsApart_connective (c : Connective) : BeginsApart (" " ++ c.word ++ " ") := by
  cases c
  · exact ⟨' ', "OR ".toList, by decide, by decide⟩
  · exact ⟨' ', "AND ".toList, by decide, by decide⟩

/-- Texts with a connective between any two of them have the tokens of all, with the connective
between any two. -/
theorem spells_separated (c : Connective) {ss : List String} {tss : List (List Token)}
    (h : List.Forall₂ Spells ss tss) (hne : ss ≠ []) :
    Spells (Text.separated (" " ++ c.word ++ " ") ss) (Token.joined c tss) := by
  induction h with
  | nil => exact absurd rfl hne
  | @cons s ts ss tss hs hrest ih =>
    cases hrest with
    | nil =>
      rw [Token.joined, List.flatMap_nil, List.append_nil]
      exact hs
    | @cons s' ts' ss tss hs' hrest =>
      have hboth := (hs.append_whole (beginsApart_connective c) (whole_connective c)).append
        (ih (List.cons_ne_nil _ _))
      have htokens : Token.joined c (ts :: ts' :: tss) =
          ts ++ [.join c] ++ Token.joined c (ts' :: tss) := by simp [Token.joined]
      rw [htokens]
      exact hboth

/-- A bracket behind a text is a token by itself. -/
theorem spells_enclosed {front s : String} {fs ts : List Token} (hfront : Whole front fs)
    (h : Spells s ts) : Spells (front ++ s ++ ")") (fs ++ ts ++ [.closing]) := by
  have hclosing : Whole ")" [.closing] := by decide
  exact ((hfront.append h).append_whole ⟨')', [], rfl, by decide⟩ hclosing).spells

/-- Texts in brackets with a connective between any two of them are read as joined, and without any
text as what the connective makes of nothing. -/
theorem means_group (c : Connective) {ss : List String} {es : List Expr}
    (h : List.Forall₂ Means ss es) :
    Means (Predicate.group c.word c.unitWord ss) (.joined c es) := by
  have hopening : Whole "(" [.opening] := by decide
  cases h with
  | nil =>
    have hconstant : Spells c.unitWord [.constant c.unit] := by
      cases c <;> exact ⟨by decide, by decide⟩
    exact ⟨_, spells_enclosed hopening hconstant, reads_constant c.unit⟩
  | cons hs hrest =>
    obtain ⟨tss, hspells, hreads⟩ := exists_tokens (.cons hs hrest)
    have hne : tss ≠ [] := by
      rintro rfl
      exact (nomatch hspells)
    have hseparated := spells_separated c hspells (List.cons_ne_nil _ _)
    exact ⟨_, spells_enclosed hopening hseparated, reads_group c hreads hne⟩

/-! ### Predicates -/

/-- The tokens of an operand are read as the operand. -/
theorem exists_operand_tokens (column : Column) (comparator : Comparator) {operand : Operand}
    (h : ∀ sql, operand ≠ .random sql) :
    ∃ ts, Spells (operand.sql column comparator) ts ∧ ∀ stack, ∃ r,
      (Reading.operand stack).run ts = some r ∧
        r.settled = some (stack, operand.expr column comparator) := by
  cases operand with
  | bound number v =>
    exact ⟨_, (isName_boundName column comparator number).spells, fun stack =>
      ⟨.complete stack (.value (boundName column comparator number)), rfl, rfl⟩⟩
  | column c => exact ⟨c.tokens, spells_column c, fun stack => run_column stack c⟩
  | random sql => exact absurd rfl (h sql)

theorem means_compare (column : Column) (comparator : Comparator) {operand : Operand}
    (h : ∀ sql, operand ≠ .random sql) :
    Means (Predicate.compare column comparator operand).sql
      (Predicate.compare column comparator operand).expr := by
  obtain ⟨ts, hspells, hreads⟩ := exists_operand_tokens column comparator h
  have hspace : Whole " " [] := by decide
  have hapart : BeginsApart " " := ⟨' ', [], rfl, by decide⟩
  have hleft := ((spells_column column).append_whole hapart hspace).append
    (spells_comparator comparator)
  have htext := (hleft.append_whole hapart hspace).append hspells
  refine ⟨_, htext, ?_⟩
  rw [Predicate.expr]
  simpa using reads_compare column comparator hreads

/-- A column with the text of a test for null behind it is read as the test. -/
theorem means_test (column : Column) {test : String} {ts : List Token} {e : Expr}
    (hapart : BeginsApart test) (htest : Spells test (.is :: ts))
    (h : ∀ stack, (Reading.is stack column.expr).run ts = some (.complete stack e)) :
    Means (column.sql ++ test) e :=
  ⟨_, (spells_column column).append hapart htest, reads_test column h⟩

theorem means_isNull (column : Column) :
    Means (Predicate.isNull column).sql (Predicate.isNull column).expr := by
  have htest : Spells " IS NULL" [.is, .null] := ⟨by decide, by decide⟩
  exact means_test column ⟨' ', "IS NULL".toList, rfl, by decide⟩ htest fun _ => rfl

theorem means_isNotNull (column : Column) :
    Means (Predicate.isNotNull column).sql (Predicate.isNotNull column).expr := by
  have htest : Spells " IS NOT NULL" [.is, .not, .null] := ⟨by decide, by decide⟩
  exact means_test column ⟨' ', "IS NOT NULL".toList, rfl, by decide⟩ htest fun _ => rfl

theorem means_not {part : Predicate} (h : Means part.sql part.expr) :
    Means (Predicate.not part).sql (Predicate.not part).expr := by
  obtain ⟨ts, hspells, hreads⟩ := h
  have hopening : Whole "(NOT " [.opening, .not] := by decide
  exact ⟨_, spells_enclosed hopening hspells, reads_not hreads⟩

/-- Predicates whose texts mean what they do have texts that do so one for one. -/
theorem forall₂_means {parts : List Predicate} (h : ∀ p ∈ parts, Means p.sql p.expr) :
    List.Forall₂ Means (parts.map Predicate.sql) (parts.map Predicate.expr) := by
  rw [List.forall₂_map_left_iff, List.forall₂_map_right_iff, List.forall₂_same]
  exact h

/-- The text of a predicate is read as the predicate is meant. -/
theorem Predicate.IsTree.means {p : Predicate} (h : p.IsTree) : Means p.sql p.expr := by
  induction h with
  | compare column comparator h => exact means_compare column comparator h
  | isNull column => exact means_isNull column
  | isNotNull column => exact means_isNotNull column
  | all _ ih =>
    rw [Predicate.sql, Predicate.expr, sqlList_eq_map, exprList_eq_map]
    exact means_group .and (forall₂_means ih)
  | any _ ih =>
    rw [Predicate.sql, Predicate.expr, sqlList_eq_map, exprList_eq_map]
    exact means_group .or (forall₂_means ih)
  | not _ ih => exact means_not ih

theorem Predicate.IsTree.bindsLast {p : Predicate} (h : p.IsTree) : p.BindsLast := by
  induction h with
  | compare column comparator _ => exact bindsLast_compare column comparator _
  | isNull column => exact bindsLast_isNull column
  | isNotNull column => exact bindsLast_isNotNull column
  | all _ ih => exact bindsLast_all ih
  | any _ ih => exact bindsLast_any ih
  | not _ ih => exact bindsLast_not ih

/-! ### Conditions of queries -/

/-- The condition of a query is read as all filters joined by conjunction. -/
theorem readCondition_eq {t : Tail} (h : ∀ p ∈ t.filters, p.IsTree) :
    readCondition t.condition = some (.joined .and (t.filters.map Predicate.expr)) := by
  have hmeans := forall₂_means fun p hp => (h p hp).means
  unfold Tail.condition
  split
  · next hnone =>
    rw [hnone]
    rfl
  · next hsome =>
    obtain ⟨tss, hspells, hreads⟩ := exists_tokens hmeans
    have hne : t.filters.map Predicate.sql ≠ [] := fun hnil => hsome (List.map_eq_nil_iff.1 hnil)
    have htss : tss ≠ [] := by
      rintro rfl
      exact hne (List.forall₂_nil_right_iff.1 hspells)
    have hfilter : Whole "WHERE " [.filter] := by decide
    have htokens := (hfilter.append (spells_separated .and hspells hne)).tokens_eq
    have hseparator : " AND " = " " ++ Connective.and.word ++ " " := by decide
    obtain ⟨r, hrun, hgives⟩ := @reads_joined .and _ _ hreads htss [] (by simp [IsBelow])
    have hfinish := (hgives.mono (Connective.strength_pos .and) (by simp [IsBelow])).finish_eq
    rw [readCondition, hseparator, htokens]
    show parse (Token.joined .and tss) = _
    rw [parse, hrun]
    exact hfinish

/-- Filters mean what they were put together to mean: the condition of a query is read as one that
comes to the conjunction of all filters. Its placeholders are the names of the values in the
filters, and for each name the last value is bound. -/
theorem Tail.condition_reads (t : Tail) (h : ∀ p ∈ t.filters, p.IsTree) (before : Params) :
    (∃ e, readCondition t.condition = some e ∧
      (∀ σ, e.truth σ = .all (t.filters.map (Predicate.truth σ))) ∧
      e.placeholders = (t.filters.flatMap Predicate.bindings).map Prod.fst) ∧
    ∀ name, (t.params before).get? name =
      (Params.lookup name (t.filters.flatMap Predicate.bindings).reverse).or
        (before.get? name) := by
  refine ⟨⟨_, readCondition_eq h, fun σ => ?_, ?_⟩, fun name => ?_⟩
  · rw [Expr.truth_joined, List.map_map]
    exact congrArg Truth.all (List.map_congr_left fun p _ => p.truth_expr σ)
  · rw [Expr.placeholders_joined, ← Predicate.exprList_eq_map,
      Predicate.flatMap_placeholders_exprList]
  · exact get?_paramsAfter (fun p hp => (h p hp).bindsLast) before name

/-! ### A table that is named like the words around it -/

namespace Keyword

/-- A table whose names are words of conditions. -/
def table : TableName := ⟨⟨"and", by decide, by decide⟩, ⟨"or", by decide, by decide⟩⟩

/-- Its column. -/
def column : Column where
  name := ⟨table, ⟨"null", by decide, by decide⟩⟩
  type := .text
  primaryKey := false
  unique := false
  notNull := false
  default := none
  foreignKey := none

/-- The comparison of the column with a text. -/
def matching (text : String) : Predicate := .compare column .like (.bound 0 (.text text))

/-- A query with filters that bind two values under one name. -/
def tail : Tail where
  joins := []
  filters := [.any [matching "a", .not (.isNull column)], .not (.all [matching "b", .any []])]
  order := none
  limit := none
  offset := none

theorem isTree_of_mem : ∀ p ∈ tail.filters, p.IsTree := by
  have hmatching : ∀ text, (matching text).IsTree := fun _ => .compare column .like nofun
  refine List.forall_mem_cons.2 ⟨.any ?_, List.forall_mem_cons.2 ⟨.not (.all ?_), nofun⟩⟩
  · exact List.forall_mem_cons.2 ⟨hmatching "a",
      List.forall_mem_cons.2 ⟨.not (.isNull column), nofun⟩⟩
  · exact List.forall_mem_cons.2 ⟨hmatching "b", List.forall_mem_cons.2 ⟨.any nofun, nofun⟩⟩

/-- The words in the names do not change the meaning, and of two values the last one is bound. -/
theorem condition_reads_keyword :
    (∀ p ∈ tail.filters, p.IsTree) ∧
      (∃ e, readCondition tail.condition = some e ∧ ∀ σ, e.truth σ =
        ((σ (matching "a").expr).or (σ (.isNull column.expr)).not).and
          ((σ (matching "a").expr).and .no).not) ∧
      (tail.params .empty).get? "or_null_like_0" = some (.text "b") := by
  obtain ⟨⟨e, hread, htruth, -⟩, hparams⟩ := tail.condition_reads isTree_of_mem .empty
  refine ⟨isTree_of_mem, ⟨e, hread, fun σ => ?_⟩, ?_⟩
  · rw [htruth]
    -- The two comparisons have one text, so they have one value.
    show ((σ (matching "a").expr).or ((σ (.isNull column.expr)).not.or .no)).and
      ((((σ (matching "a").expr).and (Truth.no.and .yes)).not).and .yes) = _
    cases σ (matching "a").expr <;> cases σ (.isNull column.expr) <;> rfl
  · rw [hparams]
    decide

end Keyword

end TypedTable
