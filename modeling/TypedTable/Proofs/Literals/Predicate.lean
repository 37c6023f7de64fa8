import TypedTable.Proofs.Literals.Declaration
import TypedTable.Proofs.Params
/-!
# Predicates that differ in literals

Two predicates are alike if they were composed by the same calls, with the same numbers and alike
values (`Predicate.Alike`). They have the same text and bind the same names
(`Predicate.Alike.sameText`): a comparison shows a value only if it is SQL text, and the name under
which it binds one is made without it.
-/

namespace TypedTable

/-- Whether a comparison is with alike values, or with columns named in the same way. -/
inductive Comparand.Alike : Comparand → Comparand → Prop
  | value {v w : Value} (h : v.Alike w) : Comparand.Alike (.value v) (.value w)
  | column {r r' : ColumnRef} (h : r.Alike r') : Comparand.Alike (.column r) (.column r')

/-- Whether two predicates were composed by the same calls, from comparisons of alike values with the
same numbers. -/
inductive Predicate.Alike : Predicate → Predicate → Prop
  | compare {comparator : Comparator} {r r' : ColumnRef} {x x' : Comparand}
      {number next next' : Nat} {p p' : Predicate} (hr : r.Alike r') (hx : x.Alike x')
      (h : Condition.checkComparison comparator r x number = (.ok p, next))
      (h' : Condition.checkComparison comparator r' x' number = (.ok p', next')) :
      Predicate.Alike p p'
  | isNull {c c' : Column} (h : c.Alike c') : Predicate.Alike (.isNull c) (.isNull c')
  | isNotNull {c c' : Column} (h : c.Alike c') : Predicate.Alike (.isNotNull c) (.isNotNull c')
  | all {parts parts' : List Predicate} (hlength : parts.length = parts'.length)
      (h : ∀ p ∈ parts.zip parts', Predicate.Alike p.1 p.2) :
      Predicate.Alike (.all parts) (.all parts')
  | any {parts parts' : List Predicate} (hlength : parts.length = parts'.length)
      (h : ∀ p ∈ parts.zip parts', Predicate.Alike p.1 p.2) :
      Predicate.Alike (.any parts) (.any parts')
  | not {part part' : Predicate} (h : Predicate.Alike part part') :
      Predicate.Alike (.not part) (.not part')
  | raw {sql : String} {params params' : Params} (h : params.names = params'.names) :
      Predicate.Alike (.raw sql params) (.raw sql params')

/-! ### Comparisons -/

/-- What a comparison that succeeds is made of. -/
theorem checkComparison_eq_ok {comparator : Comparator} {r : ColumnRef} {x : Comparand}
    {number next : Nat} {p : Predicate}
    (h : Condition.checkComparison comparator r x number = (.ok p, next)) :
    ∃ c operand, r.resolve = .ok c ∧ p = .compare c comparator operand ∧
      ((∃ r' d, x = .column r' ∧ r'.resolve = .ok d ∧ operand = .column d) ∨
        ∃ v, x = .value v ∧ c.operand v number = (.ok operand, next)) := by
  unfold Condition.checkComparison at h
  dsimp only at h
  split at h
  · exact (nomatch h)
  · next c d hchecked =>
    obtain ⟨c', hc, hchecked⟩ := bind_eq_ok.1 hchecked
    obtain ⟨other, hother, hchecked⟩ := bind_eq_ok.1 hchecked
    obtain ⟨-, -, hchecked⟩ := bind_eq_ok.1 hchecked
    cases hchecked
    cases h
    cases x with
    | value v => exact (nomatch hother)
    | column r' =>
      obtain ⟨d', hd, heq⟩ := map_eq_ok.1 hother
      cases heq
      exact ⟨c, _, hc, rfl, .inl ⟨r', d, rfl, hd, rfl⟩⟩
  · next c v hchecked =>
    obtain ⟨c', hc, hchecked⟩ := bind_eq_ok.1 hchecked
    obtain ⟨other, hother, hchecked⟩ := bind_eq_ok.1 hchecked
    obtain ⟨-, -, hchecked⟩ := bind_eq_ok.1 hchecked
    cases hchecked
    obtain ⟨hp, hnext⟩ := Prod.mk.inj h
    obtain ⟨operand, hoperand, rfl⟩ := map_eq_ok.1 hp
    cases x with
    | value w =>
      cases hother
      exact ⟨c, operand, hc, rfl, .inr ⟨v, rfl, Prod.ext hoperand hnext⟩⟩
    | column r' =>
      obtain ⟨d', -, heq⟩ := map_eq_ok.1 hother
      exact (nomatch heq)

/-- A value is compared as SQL text if it is one, and otherwise bound under the number. -/
theorem operand_eq_ok {c : Column} {v : Value} {number next : Nat} {operand : Operand}
    (h : c.operand v number = (.ok operand, next)) :
    (∃ sql, v = .random sql ∧ operand = .random sql) ∨
      v.random? = none ∧ ∃ w, operand = .bound number w := by
  unfold Column.operand at h
  split at h
  · exact (nomatch h)
  · next sql hvalidate =>
    cases h
    exact .inl ⟨sql, Column.validate_eq_random.1 hvalidate, rfl⟩
  · next w hrandom hvalidate =>
    cases h
    refine .inr ⟨?_, w, rfl⟩
    have hw : w.random? = none := Option.eq_none_iff_forall_ne_some.2 fun sql hsql =>
      hrandom sql (Value.random?_eq_some.1 hsql)
    rw [← Column.alike_of_validate hvalidate, hw]

/-- Operands of alike comparisons have the same text and bind the same names. -/
theorem operand_congr {c c' : Column} {comparator : Comparator} {v v' : Value}
    {number next next' : Nat} {operand operand' : Operand} (hc : c.name = c'.name)
    (hv : v.Alike v') (h : c.operand v number = (.ok operand, next))
    (h' : c'.operand v' number = (.ok operand', next')) :
    operand.sql c comparator = operand'.sql c' comparator ∧
      (operand.params c comparator).names = (operand'.params c' comparator).names := by
  have hname : boundName c comparator number = boundName c' comparator number := by
    rw [boundName, boundName, Column.table, Column.table, Column.ident, Column.ident, hc]
  obtain ⟨sql, rfl, rfl⟩ | ⟨hnone, w, rfl⟩ := operand_eq_ok h
  · obtain ⟨sql', rfl, rfl⟩ | ⟨hnone', -⟩ := operand_eq_ok h'
    · cases hv
      exact ⟨rfl, rfl⟩
    · rw [← hv] at hnone'
      exact (nomatch hnone')
  · obtain ⟨sql', rfl, -⟩ | ⟨-, w', rfl⟩ := operand_eq_ok h'
    · rw [hv] at hnone
      exact (nomatch hnone)
    · refine ⟨congrArg (":" ++ ·) hname, ?_⟩
      show [boundName c comparator number] = [boundName c' comparator number]
      rw [hname]

/-! ### Whole predicates -/

/-- What predicates bind is bound by one of them, or before them. -/
theorem mem_names_paramsAfter {before : Params} {parts : List Predicate} {name : String} :
    name ∈ (Predicate.paramsAfter before parts).names ↔
      name ∈ before.names ∨ ∃ p ∈ parts, name ∈ p.params.names := by
  induction parts generalizing before with
  | nil => simp [Predicate.paramsAfter]
  | cons p parts ih =>
    rw [Predicate.paramsAfter, ih, Params.mem_names_merge, or_comm (b := name ∈ before.names),
      or_assoc, List.exists_mem_cons_iff]

/-- Whether two predicates have the same text and bind the same names. -/
structure Predicate.SameText (p p' : Predicate) : Prop where
  sql : p.sql = p'.sql
  names : p.params.names = p'.params.names

/-- Predicates that bind the same names one for one do so together. -/
theorem names_paramsAfter_congr {before before' : Params} {parts parts' : List Predicate}
    (hbefore : before.names = before'.names)
    (h : List.Forall₂ Predicate.SameText parts parts') :
    (Predicate.paramsAfter before parts).names = (Predicate.paramsAfter before' parts').names := by
  refine Params.names_eq_of_mem_iff fun name => ?_
  have hnames := map_eq_of_forall₂ (h.imp fun _ _ hp => hp.names)
  have hexists : ∀ l : List Predicate, (∃ p ∈ l, name ∈ p.params.names) ↔
      ∃ names ∈ l.map fun p => p.params.names, name ∈ names := by
    intro l
    simp
  rw [mem_names_paramsAfter, mem_names_paramsAfter, hbefore, hexists, hexists, hnames]

namespace Predicate

theorem map_sql_congr {parts parts' : List Predicate} (h : List.Forall₂ SameText parts parts') :
    parts.map sql = parts'.map sql :=
  map_eq_of_forall₂ (h.imp fun _ _ hp => hp.sql)

/-- Predicates that are alike have the same text and bind the same names. -/
theorem Alike.sameText {p p' : Predicate} (h : p.Alike p') : p.SameText p' := by
  induction h with
  | @compare comparator r r' x x' number next next' p p' hr hx h h' =>
    obtain ⟨c, operand, hc, rfl, hoperand⟩ := checkComparison_eq_ok h
    obtain ⟨c', operand', hc', rfl, hoperand'⟩ := checkComparison_eq_ok h'
    have hname := (hr.resolve hc hc').name_eq
    have hsql : c.sql = c'.sql := congrArg ColumnName.sql hname
    have hoperands : operand.sql c comparator = operand'.sql c' comparator ∧
        (operand.params c comparator).names = (operand'.params c' comparator).names := by
      cases hx with
      | value hv =>
        obtain ⟨_, _, hx, -⟩ | ⟨v, hx, hv₁⟩ := hoperand
        · exact (nomatch hx)
        obtain ⟨_, _, hx', -⟩ | ⟨v', hx', hv₁'⟩ := hoperand'
        · exact (nomatch hx')
        cases hx
        cases hx'
        exact operand_congr hname hv hv₁ hv₁'
      | column hr =>
        obtain ⟨s, d, hx, hd, rfl⟩ | ⟨_, hx, -⟩ := hoperand
        · obtain ⟨s', d', hx', hd', rfl⟩ | ⟨_, hx', -⟩ := hoperand'
          · cases hx
            cases hx'
            exact ⟨congrArg ColumnName.sql (hr.resolve hd hd').name_eq, rfl⟩
          · exact (nomatch hx')
        · exact (nomatch hx)
    exact ⟨by rw [sql, sql, hsql, hoperands.1], hoperands.2⟩
  | isNull h => exact ⟨by rw [sql, sql, Column.sql, Column.sql, h.name_eq], rfl⟩
  | isNotNull h => exact ⟨by rw [sql, sql, Column.sql, Column.sql, h.name_eq], rfl⟩
  | @all parts parts' hlength _ ih =>
    have hparts : List.Forall₂ SameText parts parts' :=
      List.forall₂_iff_zip.2 ⟨hlength, fun hp => ih _ hp⟩
    refine ⟨?_, names_paramsAfter_congr rfl hparts⟩
    rw [sql, sql, sqlList_eq_map, sqlList_eq_map, map_sql_congr hparts]
  | @any parts parts' hlength _ ih =>
    have hparts : List.Forall₂ SameText parts parts' :=
      List.forall₂_iff_zip.2 ⟨hlength, fun hp => ih _ hp⟩
    refine ⟨?_, names_paramsAfter_congr rfl hparts⟩
    rw [sql, sql, sqlList_eq_map, sqlList_eq_map, map_sql_congr hparts]
  | not _ ih => exact ⟨by rw [sql, sql, ih.sql], ih.names⟩
  | raw h => exact ⟨rfl, h⟩

end Predicate

end TypedTable
