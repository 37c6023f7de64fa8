import TypedTable.Condition
import TypedTable.Proofs.Coercion
import TypedTable.Proofs.Rendering.Bindings
import TypedTable.Proofs.Rendering.Name
/-!
# Predicates in statements

The template of a predicate has the value of every comparison at the place of that comparison
(`Predicate.template`). Predicates are put together one after the other from those that are there,
and each comparison takes a number that none before it has: `Composed` describes all that can come
about this way, with predicates used more than once or not at all.

Of such predicates, the text is read as the template (`Composed.renders`), the parameters are the
values of the template (`Composed.get?_params`), and no name comes with two values, however many
predicates are merged (`Composed.eq_of_mem_bindings`). The last one holds since a name of a bound
value ends in its number.
-/

namespace TypedTable

open Template

/-! ### What a predicate is meant to say -/

/-- An operand as it is meant. -/
def Operand.template (column : Column) (comparator : Comparator) : Operand → Template
  | .bound number v => [.value (boundName column comparator number) v]
  | .column c => ofText c.sql
  | .random sql => ofText sql

/-- Templates with an operator between any two of them, in brackets. -/
def Template.group (operator constant : String) : List Template → Template
  | [] => ofText ("(" ++ constant ++ ")")
  | parts => ofText "(" ++ separated (" " ++ operator ++ " ") parts ++ ofText ")"

namespace Predicate

mutual

/-- A predicate as it is meant. -/
def template : Predicate → Template
  | compare column comparator operand =>
    ofText (column.sql ++ " " ++ comparator.sql ++ " ") ++ operand.template column comparator
  | isNull column => ofText (column.sql ++ " IS NULL")
  | isNotNull column => ofText (column.sql ++ " IS NOT NULL")
  | all parts => Template.group "AND" "TRUE" (templateList parts)
  | any parts => Template.group "OR" "FALSE" (templateList parts)
  | not part => ofText "(NOT " ++ part.template ++ ofText ")"
  | raw sql _ => ofText sql

/-- Each of the predicates as it is meant. -/
def templateList : List Predicate → List Template
  | [] => []
  | p :: rest => p.template :: templateList rest

end

theorem templateList_eq_map (parts : List Predicate) :
    templateList parts = parts.map template := by
  induction parts with
  | nil => rfl
  | cons p rest ih => rw [templateList, List.map_cons, ih]

/-- The values of a predicate, each with its name. -/
def bindings (p : Predicate) : List (String × Value) := p.template.bindings

end Predicate

theorem bindings_group (operator constant : String) (ts : List Template) :
    (group operator constant ts).bindings = ts.flatMap Template.bindings := by
  cases ts with
  | nil => exact bindings_ofText _
  | cons t ts => simp [group]

theorem bindings_all (parts : List Predicate) :
    (Predicate.all parts).bindings = parts.flatMap Predicate.bindings := by
  rw [Predicate.bindings, Predicate.template, bindings_group, Predicate.templateList_eq_map,
    List.flatMap_map]
  rfl

theorem bindings_any (parts : List Predicate) :
    (Predicate.any parts).bindings = parts.flatMap Predicate.bindings := by
  rw [Predicate.bindings, Predicate.template, bindings_group, Predicate.templateList_eq_map,
    List.flatMap_map]
  rfl

theorem bindings_not (part : Predicate) : (Predicate.not part).bindings = part.bindings := by
  simp [Predicate.bindings, Predicate.template]

/-! ### Predicates that can come about -/

/-- Predicates that are put together one after the other, each from those before it. The next value
that is bound gets the number `next`. -/
inductive Composed : Nat → List Predicate → Prop
  | nil (next : Nat) : Composed next []
  /-- A comparison with a value, for which the column may use up a number. -/
  | compare {next after : Nat} {pool : List Predicate} {column : Column} {v : Value}
      {operand : Operand} (comparator : Comparator) (h : Composed next pool) (hv : v.IsInert)
      (hoperand : column.operand v next = (.ok operand, after)) :
      Composed after (.compare column comparator operand :: pool)
  | compareColumns {next : Nat} {pool : List Predicate} (column : Column)
      (comparator : Comparator) (other : Column) (h : Composed next pool) :
      Composed next (.compare column comparator (.column other) :: pool)
  | isNull {next : Nat} {pool : List Predicate} (column : Column) (h : Composed next pool) :
      Composed next (.isNull column :: pool)
  | isNotNull {next : Nat} {pool : List Predicate} (column : Column) (h : Composed next pool) :
      Composed next (.isNotNull column :: pool)
  | all {next : Nat} {pool parts : List Predicate} (h : Composed next pool)
      (hparts : ∀ p ∈ parts, p ∈ pool) : Composed next (.all parts :: pool)
  | any {next : Nat} {pool parts : List Predicate} (h : Composed next pool)
      (hparts : ∀ p ∈ parts, p ∈ pool) : Composed next (.any parts :: pool)
  | not {next : Nat} {pool : List Predicate} {part : Predicate} (h : Composed next pool)
      (hpart : part ∈ pool) : Composed next (.not part :: pool)
  /-- Numbers are given out elsewhere, or to comparisons that are never used. -/
  | skip {next after : Nat} {pool : List Predicate} (h : Composed next pool)
      (hle : next ≤ after) : Composed after pool

/-- What a value becomes as an operand: text of the server, or a bound value with the number that
was the next one. -/
theorem operand_cases {column : Column} {v : Value} {next after : Nat} {operand : Operand}
    (h : column.operand v next = (.ok operand, after)) :
    (∃ sql, v = .random sql ∧ operand = .random sql ∧ after = next) ∨
      ∃ w, column.validate v = .ok w ∧ operand = .bound next w ∧ after = next + 1 := by
  unfold Column.operand at h
  split at h
  · cases h
  · next sql hvalidate =>
    cases h
    exact .inl ⟨sql, Column.validate_eq_random.1 hvalidate, rfl, rfl⟩
  · next w _ hvalidate =>
    cases h
    exact .inr ⟨w, hvalidate, rfl, rfl⟩

/-! ### Text -/

theorem inert_comparator (comparator : Comparator) : Inert comparator.sql := by
  cases comparator <;> exact inert_of_all (by decide)

theorem Operand.renders {column : Column} {comparator : Comparator} {operand : Operand}
    (h : ∀ sql, operand = .random sql → Inert sql) :
    Renders (operand.sql column comparator) (operand.template column comparator) := by
  cases operand with
  | bound number v => exact (isName_boundName column comparator number).renders v
  | column c => exact (inert_column c.name).renders
  | random sql => exact (h sql rfl).renders

theorem renders_compare {column : Column} {comparator : Comparator} {operand : Operand}
    (h : ∀ sql, operand = .random sql → Inert sql) :
    Renders (Predicate.compare column comparator operand).sql
      (Predicate.compare column comparator operand).template := by
  have hspace : Inert " " := inert_of_all (by decide)
  have hcolumn := ((inert_column column.name).append hspace).append (inert_comparator comparator)
  exact (hcolumn.append hspace).append_renders (Operand.renders h)

/-- Texts in brackets with an operator between any two of them are read as the templates put
together in this way. -/
theorem renders_group {operator constant : String} (hoperator : Inert (" " ++ operator ++ " "))
    (hconstant : Inert constant) {ss : List String} {ts : List Template}
    (h : List.Forall₂ Renders ss ts) :
    Renders (Predicate.group operator constant ss) (group operator constant ts) := by
  have hopen : Inert "(" := inert_of_all (by decide)
  have hclose : Inert ")" := inert_of_all (by decide)
  cases h with
  | nil => exact ((hopen.append hconstant).append hclose).renders
  | cons hst hrest =>
    have hseparated := renders_separated hoperator (by simp) (by simp [endsName_cons]; rfl)
      (.cons hst hrest)
    exact (hopen.append_renders hseparated).append hclose.renders (endsName_cons.2 rfl)

/-- Parts of a pool whose texts are read as their templates. -/
theorem forall₂_renders_parts {pool parts : List Predicate}
    (h : ∀ p ∈ pool, Renders p.sql p.template) (hparts : ∀ p ∈ parts, p ∈ pool) :
    List.Forall₂ Renders (Predicate.sqlList parts) (Predicate.templateList parts) := by
  rw [Predicate.sqlList_eq_map, Predicate.templateList_eq_map]
  exact forall₂_renders fun p hp => h p (hparts p hp)

/-- The text of a predicate is read as its template. -/
theorem Composed.renders {next : Nat} {pool : List Predicate} (h : Composed next pool) :
    ∀ p ∈ pool, Renders p.sql p.template := by
  -- By the way the pool was put together: each step asks only for its newest predicate, whose
  -- parts are in the pool already.
  induction h with
  | nil => exact fun p hp => absurd hp List.not_mem_nil
  | compare comparator _ hv hoperand ih =>
    refine List.forall_mem_cons.2 ⟨renders_compare fun sql hsql => ?_, ih⟩
    obtain ⟨sql', rfl, rfl, -⟩ | ⟨w, -, rfl, -⟩ := operand_cases hoperand
    -- Text of the server gets into the statement only here, and it is as it was given.
    · cases hsql
      exact hv sql rfl
    · exact (nomatch hsql)
  | compareColumns column comparator other _ ih =>
    exact List.forall_mem_cons.2 ⟨renders_compare fun sql hsql => (nomatch hsql), ih⟩
  | isNull column _ ih =>
    have hnull : Inert " IS NULL" := inert_of_all (by decide)
    exact List.forall_mem_cons.2 ⟨((inert_column column.name).append hnull).renders, ih⟩
  | isNotNull column _ ih =>
    have hnull : Inert " IS NOT NULL" := inert_of_all (by decide)
    exact List.forall_mem_cons.2 ⟨((inert_column column.name).append hnull).renders, ih⟩
  | all _ hparts ih =>
    refine List.forall_mem_cons.2 ⟨?_, ih⟩
    exact renders_group (inert_of_all (by decide)) (inert_of_all (by decide))
      (forall₂_renders_parts ih hparts)
  | any _ hparts ih =>
    refine List.forall_mem_cons.2 ⟨?_, ih⟩
    exact renders_group (inert_of_all (by decide)) (inert_of_all (by decide))
      (forall₂_renders_parts ih hparts)
  | not _ hpart ih =>
    have hopen : Inert "(NOT " := inert_of_all (by decide)
    have hclose : Inert ")" := inert_of_all (by decide)
    exact List.forall_mem_cons.2
      ⟨(hopen.append_renders (ih _ hpart)).append hclose.renders (endsName_cons.2 rfl), ih⟩
  | skip _ _ ih => exact ih

/-! ### Parameters -/

/-- Whether the parameters of a predicate are the values of its template, the last one for each
name. -/
def Predicate.BindsLast (p : Predicate) : Prop :=
  ∀ name, p.params.get? name = Params.lookup name p.bindings.reverse

/-- Merging the parameters of predicates binds the last value for each name. -/
theorem get?_paramsAfter {parts : List Predicate} (h : ∀ p ∈ parts, p.BindsLast) (before : Params)
    (name : String) :
    (Predicate.paramsAfter before parts).get? name =
      (Params.lookup name (parts.flatMap Predicate.bindings).reverse).or (before.get? name) := by
  induction parts generalizing before with
  | nil => rfl
  | cons p parts ih =>
    obtain ⟨hp, hparts⟩ := List.forall_mem_cons.1 h
    rw [Predicate.paramsAfter, ih hparts, Params.get?_merge, hp, List.flatMap_cons,
      List.reverse_append, Params.lookup_append, Option.or_assoc]

theorem bindsLast_group {parts : List Predicate} (h : ∀ p ∈ parts, p.BindsLast) (name : String) :
    (Predicate.paramsAfter .empty parts).get? name =
      Params.lookup name (parts.flatMap Predicate.bindings).reverse := by
  rw [get?_paramsAfter h, Params.get?_empty, Option.or_none]

theorem bindsLast_compare (column : Column) (comparator : Comparator) (operand : Operand) :
    (Predicate.compare column comparator operand).BindsLast := by
  intro name
  cases operand with
  | bound number v =>
    show Params.lookup name [(boundName column comparator number, v)] = _
    simp [Predicate.bindings, Predicate.template, Operand.template]
  -- Columns and text of the server bind nothing.
  | column c | random sql =>
    show none = _
    simp [Predicate.bindings, Predicate.template, Operand.template, Params.lookup]

theorem bindsLast_isNull (column : Column) : (Predicate.isNull column).BindsLast := by
  intro name
  simp [Predicate.params, Predicate.bindings, Predicate.template, Params.lookup]

theorem bindsLast_isNotNull (column : Column) : (Predicate.isNotNull column).BindsLast := by
  intro name
  simp [Predicate.params, Predicate.bindings, Predicate.template, Params.lookup]

theorem bindsLast_all {parts : List Predicate} (h : ∀ p ∈ parts, p.BindsLast) :
    (Predicate.all parts).BindsLast := by
  intro name
  rw [bindings_all]
  exact bindsLast_group h name

theorem bindsLast_any {parts : List Predicate} (h : ∀ p ∈ parts, p.BindsLast) :
    (Predicate.any parts).BindsLast := by
  intro name
  rw [bindings_any]
  exact bindsLast_group h name

theorem bindsLast_not {part : Predicate} (h : part.BindsLast) :
    (Predicate.not part).BindsLast := by
  intro name
  rw [bindings_not]
  exact h name

/-- The parameters of a predicate are the values of its template. -/
theorem Composed.bindsLast {next : Nat} {pool : List Predicate} (h : Composed next pool) :
    ∀ p ∈ pool, p.BindsLast := by
  induction h with
  | nil => exact fun p hp => absurd hp List.not_mem_nil
  | compare comparator _ _ _ ih =>
    exact List.forall_mem_cons.2 ⟨bindsLast_compare _ comparator _, ih⟩
  | compareColumns column comparator other _ ih =>
    exact List.forall_mem_cons.2 ⟨bindsLast_compare column comparator _, ih⟩
  | isNull column _ ih => exact List.forall_mem_cons.2 ⟨bindsLast_isNull column, ih⟩
  | isNotNull column _ ih => exact List.forall_mem_cons.2 ⟨bindsLast_isNotNull column, ih⟩
  | all _ hparts ih =>
    exact List.forall_mem_cons.2 ⟨bindsLast_all fun p hp => ih p (hparts p hp), ih⟩
  | any _ hparts ih =>
    exact List.forall_mem_cons.2 ⟨bindsLast_any fun p hp => ih p (hparts p hp), ih⟩
  | not _ hpart ih => exact List.forall_mem_cons.2 ⟨bindsLast_not (ih _ hpart), ih⟩
  | skip _ _ ih => exact ih

/-! ### Numbers -/

/-- Values whose names end in numbers below `next`, with one value for each name. -/
structure Numbered (next : Nat) (bindings : List (String × Value)) : Prop where
  number_lt : ∀ name v, (name, v) ∈ bindings → ∃ column comparator number,
    number < next ∧ name = boundName column comparator number
  unique : ∀ name v w, (name, v) ∈ bindings → (name, w) ∈ bindings → v = w

/-- Values that were there before, in whatever number and order, are numbered as before. -/
theorem Numbered.of_subset {next : Nat} {old new : List (String × Value)} (h : Numbered next old)
    (hnew : new ⊆ old) : Numbered next (new ++ old) := by
  have hold : ∀ b ∈ new ++ old, b ∈ old := fun b hb => (List.mem_append.1 hb).elim (@hnew b) id
  constructor
  · intro name v hv
    exact h.number_lt name v (hold _ hv)
  · intro name v w hv hw
    exact h.unique name v w (hold _ hv) (hold _ hw)

theorem Numbered.mono {next after : Nat} {bindings : List (String × Value)}
    (h : Numbered next bindings) (hle : next ≤ after) : Numbered after bindings := by
  refine ⟨fun name v hv => ?_, h.unique⟩
  obtain ⟨column, comparator, number, hlt, hname⟩ := h.number_lt name v hv
  exact ⟨column, comparator, number, Nat.lt_of_lt_of_le hlt hle, hname⟩

/-- A value under a name with the next number has a name of its own: all other names end in smaller
numbers. -/
theorem Numbered.cons {next : Nat} {bindings : List (String × Value)} (h : Numbered next bindings)
    (column : Column) (comparator : Comparator) (v : Value) :
    Numbered (next + 1) ((boundName column comparator next, v) :: bindings) := by
  -- The name ends in a number that no value has.
  have hfresh : ∀ w, (boundName column comparator next, w) ∉ bindings := by
    intro w hw
    obtain ⟨column', comparator', number, hlt, hname⟩ := h.number_lt _ w hw
    exact Nat.ne_of_gt hlt (number_eq_of_boundName_eq hname)
  constructor
  · intro name w hw
    rcases List.mem_cons.1 hw with heq | hw
    · cases heq
      exact ⟨column, comparator, next, Nat.lt_succ_self next, rfl⟩
    · obtain ⟨column', comparator', number, hlt, hname⟩ := h.number_lt name w hw
      exact ⟨column', comparator', number, Nat.lt_succ_of_lt hlt, hname⟩
  · intro name w w' hw hw'
    -- One value for each name: the new one cannot meet an old one under its name.
    rcases List.mem_cons.1 hw with heq | hw <;> rcases List.mem_cons.1 hw' with heq' | hw'
    · cases heq
      cases heq'
      rfl
    · cases heq
      exact absurd hw' (hfresh w')
    · cases heq'
      exact absurd hw (hfresh w)
    · exact h.unique name w w' hw hw'

theorem flatMap_bindings_subset {pool parts : List Predicate} (h : ∀ p ∈ parts, p ∈ pool) :
    parts.flatMap Predicate.bindings ⊆ pool.flatMap Predicate.bindings := by
  intro b hb
  obtain ⟨p, hp, hb⟩ := List.mem_flatMap.1 hb
  exact List.mem_flatMap.2 ⟨p, h p hp, hb⟩

/-- All values of the pool are numbered. -/
theorem Composed.numbered {next : Nat} {pool : List Predicate} (h : Composed next pool) :
    Numbered next (pool.flatMap Predicate.bindings) := by
  induction h with
  | nil next => exact ⟨fun _ _ h => (nomatch h), fun _ _ _ h => (nomatch h)⟩
  -- A bound value takes the next number; all other steps only use values of the pool again.
  | @compare next _ pool column _ _ comparator _ _ hoperand ih =>
    obtain ⟨sql, -, rfl, rfl⟩ | ⟨w, -, rfl, rfl⟩ := operand_cases hoperand
    · have hnone : (Predicate.compare column comparator (.random sql)).bindings = [] := by
        simp [Predicate.bindings, Predicate.template, Operand.template]
      rw [List.flatMap_cons, hnone]
      exact ih
    · have hone : (Predicate.compare column comparator (.bound next w)).bindings =
          [(boundName column comparator next, w)] := by
        simp [Predicate.bindings, Predicate.template, Operand.template]
      rw [List.flatMap_cons, hone]
      exact ih.cons column comparator w
  | compareColumns column comparator other _ ih =>
    refine ih.of_subset ?_
    simp [Predicate.bindings, Predicate.template, Operand.template]
  | isNull column _ ih =>
    refine ih.of_subset ?_
    simp [Predicate.bindings, Predicate.template]
  | isNotNull column _ ih =>
    refine ih.of_subset ?_
    simp [Predicate.bindings, Predicate.template]
  | all _ hparts ih =>
    refine ih.of_subset ?_
    rw [bindings_all]
    exact flatMap_bindings_subset hparts
  | any _ hparts ih =>
    refine ih.of_subset ?_
    rw [bindings_any]
    exact flatMap_bindings_subset hparts
  | not _ hpart ih =>
    refine ih.of_subset fun b hb => ?_
    rw [bindings_not] at hb
    exact List.mem_flatMap.2 ⟨_, hpart, hb⟩
  | skip _ hle ih => exact ih.mono hle

/-- In predicates of one pool a name never comes with two values. -/
theorem Composed.eq_of_mem_bindings {next : Nat} {pool parts : List Predicate}
    (h : Composed next pool) (hparts : ∀ p ∈ parts, p ∈ pool) {name : String} {v w : Value}
    (hv : (name, v) ∈ parts.flatMap Predicate.bindings)
    (hw : (name, w) ∈ parts.flatMap Predicate.bindings) : v = w :=
  h.numbered.unique name v w (flatMap_bindings_subset hparts hv) (flatMap_bindings_subset hparts hw)

end TypedTable
