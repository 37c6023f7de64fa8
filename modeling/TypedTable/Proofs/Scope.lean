import Mathlib.Data.List.Nodup
import Mathlib.Logic.Basic
import TypedTable.Proofs.Clauses
/-!
# Tables in scope

A join needs one table that is in the query already and brings in one that is not
(`Join.IsAnchored`, `Join.Resolves`). Which tables are in the query when a join is resolved can be
read off the joins in front of it, since each of those has left both of its tables there
(`Join.tablesBefore`).

* `Clauses.tail_scope` is the main statement: clauses can be resolved exactly if every join at its
  turn, and the order at the end, find the tables that they need. It says what the joins are
  resolved to, that their columns may be given in either order, and which error names the first
  clause that does not find its tables.
* `Join.exists_resolveAll`, `Join.resolveAll_eq_error` and `Join.nodup_resolveAll` are the parts of
  it, each by induction on the joins with a scope that grows.
-/

namespace TypedTable

namespace Join

/-! ### One join -/

/-- The tables that a join relates. -/
def tables (j : Join) : List TableName := [j.first.table, j.second.table]

/-- Whether exactly one of the tables of a join is in scope. -/
def IsAnchored (scope : List TableName) (j : Join) : Prop :=
  Xor (j.first.table ∈ scope) (j.second.table ∈ scope)

instance (scope : List TableName) (j : Join) : Decidable (j.IsAnchored scope) :=
  inferInstanceAs (Decidable (Xor _ _))

/-- What is wrong with a join that is not anchored. -/
def fault (scope : List TableName) (j : Join) : Error :=
  if j.first.table ∈ scope then .joinInScope j.first.name j.second.name
  else .joinOutOfScope j.first.name j.second.name

/-- What a join is resolved to: one of its columns belongs to a table in scope, and the other one to
the table that is added. -/
structure Resolves (scope : List TableName) (j : Join) (r : ResolvedJoin) : Prop where
  kind : r.kind = j.kind
  columns : r.anchor = j.first ∧ r.joined = j.second ∨ r.anchor = j.second ∧ r.joined = j.first
  anchor_mem : r.anchor.table ∈ scope
  table_not_mem : r.table ∉ scope

variable {scope scope' : List TableName} {j : Join} {r : ResolvedJoin}

theorem resolve_eq_ok_iff : j.resolve scope = .ok r ↔ Resolves scope j r := by
  constructor
  · intro h
    unfold resolve at h
    simp only [List.contains_eq_mem] at h
    split at h
    · next hfirst hsecond =>
      cases h
      exact ⟨rfl, .inl ⟨rfl, rfl⟩, of_decide_eq_true hfirst, of_decide_eq_false hsecond⟩
    · next hfirst hsecond =>
      cases h
      exact ⟨rfl, .inr ⟨rfl, rfl⟩, of_decide_eq_true hsecond, of_decide_eq_false hfirst⟩
    · cases h
    · cases h
  · rintro ⟨hkind, hcolumns, hanchor, htable⟩
    obtain ⟨kind, anchor, joined⟩ := r
    dsimp only at hkind hcolumns hanchor
    rw [ResolvedJoin.table] at htable
    unfold resolve
    obtain ⟨rfl, rfl⟩ | ⟨rfl, rfl⟩ := hcolumns
    · simp [hkind, hanchor, htable]
    · simp [hkind, hanchor, htable]

theorem exists_resolves (h : j.IsAnchored scope) : ∃ r, Resolves scope j r := by
  rcases h with ⟨hfirst, hsecond⟩ | ⟨hsecond, hfirst⟩
  · exact ⟨⟨j.kind, j.first, j.second⟩, rfl, .inl ⟨rfl, rfl⟩, hfirst, hsecond⟩
  · exact ⟨⟨j.kind, j.second, j.first⟩, rfl, .inr ⟨rfl, rfl⟩, hsecond, hfirst⟩

theorem Resolves.isAnchored (h : Resolves scope j r) : j.IsAnchored scope := by
  have hanchor := h.anchor_mem
  have htable := h.table_not_mem
  rw [ResolvedJoin.table] at htable
  obtain ⟨hfirst, hsecond⟩ | ⟨hsecond, hfirst⟩ := h.columns
  · rw [hfirst] at hanchor
    rw [hsecond] at htable
    exact .inl ⟨hanchor, htable⟩
  · rw [hsecond] at hanchor
    rw [hfirst] at htable
    exact .inr ⟨hanchor, htable⟩

/-- A join whose tables are both in scope, or neither of them, is refused. -/
theorem resolve_of_not_isAnchored (h : ¬j.IsAnchored scope) :
    j.resolve scope = .error (j.fault scope) := by
  have hboth : j.first.table ∈ scope ↔ j.second.table ∈ scope := (not_xor _ _).1 h
  unfold resolve fault
  by_cases hfirst : j.first.table ∈ scope
  · have hsecond := hboth.1 hfirst
    simp [hfirst, hsecond]
  · have hsecond : j.second.table ∉ scope := fun hsecond => hfirst (hboth.2 hsecond)
    simp [hfirst, hsecond]

theorem kind_fault (scope : List TableName) (j : Join) : (j.fault scope).kind = .configuration := by
  unfold fault
  split <;> rfl

/-- Which tables are in scope matters, not how they are listed. -/
theorem IsAnchored.congr (hscope : ∀ t, t ∈ scope ↔ t ∈ scope') :
    j.IsAnchored scope ↔ j.IsAnchored scope' := by
  unfold IsAnchored
  rw [hscope, hscope]

theorem fault_congr (hscope : ∀ t, t ∈ scope ↔ t ∈ scope') : j.fault scope = j.fault scope' := by
  unfold fault
  simp only [hscope]

/-- After a join both of its tables are in scope. -/
theorem Resolves.mem_scope_iff (h : Resolves scope j r) (hscope : ∀ t, t ∈ scope ↔ t ∈ scope')
    (t : TableName) : t ∈ scope ++ [r.table] ↔ t ∈ scope' ++ j.tables := by
  have hanchor := (hscope _).1 h.anchor_mem
  have htable : r.table = r.joined.table := rfl
  rw [List.mem_append, List.mem_append, List.mem_singleton, hscope, htable, tables, List.mem_pair]
  obtain ⟨hfirst, hsecond⟩ | ⟨hsecond, hfirst⟩ := h.columns
  · rw [hfirst] at hanchor
    rw [hsecond]
    constructor
    · rintro (ht | ht)
      · exact .inl ht
      · exact .inr (.inr ht)
    · rintro (ht | rfl | ht)
      · exact .inl ht
      · exact .inl hanchor
      · exact .inr ht
  · rw [hsecond] at hanchor
    rw [hfirst]
    constructor
    · rintro (ht | ht)
      · exact .inl ht
      · exact .inr (.inl ht)
    · rintro (ht | ht | rfl)
      · exact .inl ht
      · exact .inr ht
      · exact .inl hanchor

/-! ### Joins one after the other -/

/-- The tables that are in the query when the join with this number is resolved: those that were
there at first, and those of all joins before. -/
def tablesBefore (scope : List TableName) (joins : List Join) (k : Nat) : List TableName :=
  scope ++ (joins.take k).flatMap tables

/-- Whether every join is anchored at its turn. -/
def AllAnchored (scope : List TableName) (joins : List Join) : Prop :=
  ∀ (k : Nat) (j : Join), joins[k]? = some j → j.IsAnchored (tablesBefore scope joins k)

theorem tablesBefore_zero (scope : List TableName) (joins : List Join) :
    tablesBefore scope joins 0 = scope := by
  simp [tablesBefore]

theorem tablesBefore_cons (scope : List TableName) (j : Join) (rest : List Join) (k : Nat) :
    tablesBefore scope (j :: rest) (k + 1) = tablesBefore (scope ++ j.tables) rest k := by
  simp [tablesBefore]

theorem mem_tablesBefore_congr (hscope : ∀ t, t ∈ scope ↔ t ∈ scope') (joins : List Join) (k : Nat)
    (t : TableName) : t ∈ tablesBefore scope joins k ↔ t ∈ tablesBefore scope' joins k := by
  simp only [tablesBefore, List.mem_append, hscope]

theorem allAnchored_congr (hscope : ∀ t, t ∈ scope ↔ t ∈ scope') {joins : List Join} :
    AllAnchored scope joins ↔ AllAnchored scope' joins := by
  refine forall_congr' fun k => forall_congr' fun j => imp_congr_right fun _ => ?_
  exact IsAnchored.congr (mem_tablesBefore_congr hscope joins k)

theorem allAnchored_cons {rest : List Join} : AllAnchored scope (j :: rest) ↔
    j.IsAnchored scope ∧ AllAnchored (scope ++ j.tables) rest := by
  constructor
  · intro h
    have hfirst := h 0 j rfl
    rw [tablesBefore_zero] at hfirst
    refine ⟨hfirst, fun k j' hk => ?_⟩
    rw [← tablesBefore_cons]
    exact h (k + 1) j' hk
  · rintro ⟨hfirst, hrest⟩ k j' hk
    cases k with
    | zero =>
      cases hk
      rwa [tablesBefore_zero]
    | succ k =>
      rw [tablesBefore_cons]
      exact hrest k j' hk

/-- The first join is resolved, and then the others with its table in scope. -/
theorem resolveAll_cons_eq_ok_iff {rest : List Join} {rs : List ResolvedJoin} :
    resolveAll scope (j :: rest) = .ok rs ↔ ∃ r others, Resolves scope j r ∧
      resolveAll (scope ++ [r.table]) rest = .ok others ∧ rs = r :: others := by
  constructor
  · intro h
    obtain ⟨r, hr, h⟩ := bind_eq_ok.1 h
    obtain ⟨others, hothers, h⟩ := bind_eq_ok.1 h
    exact ⟨r, others, resolve_eq_ok_iff.1 hr, hothers, (Except.ok.inj h).symm⟩
  · rintro ⟨r, others, hr, hothers, rfl⟩
    exact bind_eq_ok.2 ⟨r, resolve_eq_ok_iff.2 hr, bind_eq_ok.2 ⟨others, hothers, rfl⟩⟩

/-- Joins that are anchored at their turn can be resolved. -/
theorem exists_resolveAll {joins : List Join} (h : AllAnchored scope joins) :
    ∃ rs, resolveAll scope joins = .ok rs := by
  induction joins generalizing scope with
  | nil => exact ⟨[], rfl⟩
  | cons j rest ih =>
    obtain ⟨hfirst, hrest⟩ := allAnchored_cons.1 h
    obtain ⟨r, hr⟩ := exists_resolves hfirst
    -- The table that was added is one of the two of the join, and the other one was there.
    have hscope := hr.mem_scope_iff fun _ => Iff.rfl
    obtain ⟨others, hothers⟩ := ih ((allAnchored_congr hscope).2 hrest)
    exact ⟨r :: others, resolveAll_cons_eq_ok_iff.2 ⟨r, others, hr, hothers, rfl⟩⟩

theorem allAnchored_of_resolveAll {joins : List Join} {rs : List ResolvedJoin}
    (h : resolveAll scope joins = .ok rs) : AllAnchored scope joins := by
  induction joins generalizing scope rs with
  | nil =>
    intro k j hk
    cases hk
  | cons j rest ih =>
    obtain ⟨r, others, hr, hothers, -⟩ := resolveAll_cons_eq_ok_iff.1 h
    have hscope := hr.mem_scope_iff fun _ => Iff.rfl
    exact allAnchored_cons.2 ⟨hr.isAnchored, (allAnchored_congr hscope).1 (ih hothers)⟩

/-- The first join that is not anchored is the one that is refused. -/
theorem resolveAll_eq_error {joins : List Join} {k : Nat} (hk : joins[k]? = some j)
    (hbefore : ∀ l j', l < k → joins[l]? = some j' → j'.IsAnchored (tablesBefore scope joins l))
    (hj : ¬j.IsAnchored (tablesBefore scope joins k)) :
    resolveAll scope joins = .error (j.fault (tablesBefore scope joins k)) := by
  induction joins generalizing scope k with
  | nil => cases hk
  | cons j' rest ih =>
    cases k with
    | zero =>
      cases hk
      rw [tablesBefore_zero] at hj ⊢
      rw [resolveAll, resolve_of_not_isAnchored hj]
      rfl
    | succ k =>
      have hfirst := hbefore 0 j' (Nat.succ_pos k) rfl
      rw [tablesBefore_zero] at hfirst
      obtain ⟨r, hr⟩ := exists_resolves hfirst
      -- The scope behind the first join has the same tables, if in another list.
      have hscope := hr.mem_scope_iff fun _ => Iff.rfl
      have htables := mem_tablesBefore_congr hscope rest
      rw [tablesBefore_cons] at hj ⊢
      have herror : resolveAll (scope ++ [r.table]) rest =
          .error (j.fault (tablesBefore (scope ++ j'.tables) rest k)) := by
        rw [← fault_congr (htables k)]
        refine ih hk (fun l j'' hl hj'' => ?_) fun hanchored => ?_
        · have hanchored := hbefore (l + 1) j'' (Nat.succ_lt_succ hl) hj''
          rw [tablesBefore_cons] at hanchored
          exact (IsAnchored.congr (htables l)).2 hanchored
        · exact hj ((IsAnchored.congr (htables k)).1 hanchored)
      rw [resolveAll, resolve_eq_ok_iff.2 hr]
      show (resolveAll (scope ++ [r.table]) rest >>= _) = _
      rw [herror]
      rfl

/-- Every join is resolved against the tables that were there at first and those that the joins
before it have added. -/
theorem resolves_of_resolveAll {joins : List Join} {rs : List ResolvedJoin}
    (h : resolveAll scope joins = .ok rs) :
    rs.length = joins.length ∧ ∀ k j r, joins[k]? = some j → rs[k]? = some r →
      Resolves (scope ++ (rs.take k).map ResolvedJoin.table) j r := by
  induction joins generalizing scope rs with
  | nil =>
    cases h
    exact ⟨rfl, fun k j r hk _ => nomatch hk⟩
  | cons j rest ih =>
    obtain ⟨r, others, hr, hothers, rfl⟩ := resolveAll_cons_eq_ok_iff.1 h
    obtain ⟨hlength, hresolves⟩ := ih hothers
    refine ⟨congrArg (· + 1) hlength, fun k j' r' hj' hr' => ?_⟩
    cases k with
    | zero =>
      cases hj'
      cases hr'
      simpa using hr
    | succ k =>
      have hrest := hresolves k j' r' hj' hr'
      simpa using hrest

/-- No table is added twice, and none that was there before. -/
theorem nodup_resolveAll {joins : List Join} {rs : List ResolvedJoin} (hscope : scope.Nodup)
    (h : resolveAll scope joins = .ok rs) :
    (scope ++ rs.map ResolvedJoin.table).Nodup := by
  induction joins generalizing scope rs with
  | nil =>
    cases h
    simpa using hscope
  | cons j rest ih =>
    obtain ⟨r, others, hr, hothers, rfl⟩ := resolveAll_cons_eq_ok_iff.1 h
    have hadded : (scope ++ [r.table]).Nodup := by
      apply hscope.append (List.nodup_singleton _)
      rw [List.disjoint_singleton]
      exact hr.table_not_mem
    have hrest := ih hadded hothers
    rwa [List.append_assoc] at hrest

/-- The tables that are in the query in the end. -/
theorem mem_tables_resolveAll {joins : List Join} {rs : List ResolvedJoin}
    (h : resolveAll scope joins = .ok rs) (t : TableName) :
    t ∈ scope ++ rs.map ResolvedJoin.table ↔ t ∈ tablesBefore scope joins joins.length := by
  induction joins generalizing scope rs with
  | nil =>
    cases h
    simp [tablesBefore]
  | cons j rest ih =>
    obtain ⟨r, others, hr, hothers, rfl⟩ := resolveAll_cons_eq_ok_iff.1 h
    have hscope := hr.mem_scope_iff fun _ => Iff.rfl
    have hrest := ih hothers
    rw [List.append_assoc] at hrest
    rw [List.length_cons, tablesBefore_cons, ← mem_tablesBefore_congr hscope rest]
    exact hrest

/-- Joins that can be resolved may have their columns in either order. -/
theorem resolveAll_of_swaps {joins joins' : List Join} {rs : List ResolvedJoin}
    (hswaps : List.Forall₂ (fun j j' => j' = j ∨ j' = j.swap) joins joins')
    (h : resolveAll scope joins = .ok rs) : resolveAll scope joins' = .ok rs := by
  induction hswaps generalizing scope rs with
  | nil => exact h
  | @cons j j' rest rest' hj _ ih =>
    obtain ⟨r, others, hr, hothers, rfl⟩ := resolveAll_cons_eq_ok_iff.1 h
    have hr' : Resolves scope j' r := by
      rcases hj with rfl | rfl
      · exact hr
      · exact resolve_eq_ok_iff.1 (resolve_swap (resolve_eq_ok_iff.2 hr))
    exact resolveAll_cons_eq_ok_iff.2 ⟨r, others, hr', ih hothers, rfl⟩

end Join

/-! ### Clauses -/

namespace Clauses

/-- Whether the order is by a column of a table that is in the query in the end. -/
def OrdersInside (c : Clauses) (table : TableName) : Prop :=
  ∀ column, c.orderBy = some column →
    column.table ∈ Join.tablesBefore [table] c.joins c.joins.length

/-- What the joins of a query are resolved to. The tables of the query are its own and then those
that are joined, in the order of the joins and none of them twice. Every fragment of a join names
the table that it adds and has a column of a table that was there before on its left and one of the
added table on its right. -/
structure InScope (c : Clauses) (table : TableName) (t : Tail) : Prop where
  nodup : (t.tables table).Nodup
  length_tables : (t.tables table).length = c.joins.length + 1
  head : (t.tables table)[0]? = some table
  fragments : ∀ k j, c.joins[k]? = some j → ∃ anchor joined,
    (anchor = j.first ∧ joined = j.second ∨ anchor = j.second ∧ joined = j.first) ∧
    anchor.table ∈ (t.tables table).take (k + 1) ∧
    joined.table ∉ (t.tables table).take (k + 1) ∧
    (t.tables table)[k + 1]? = some joined.table ∧
    (t.joins.map ResolvedJoin.sql)[k]? = some (j.kind.keyword ++ " " ++ joined.table.sql ++
      " ON " ++ anchor.sql ++ " = " ++ joined.sql)

variable {c : Clauses} {table : TableName} {t : Tail}

theorem inScope_of_resolveAll (h : Join.resolveAll [table] c.joins = .ok t.joins) :
    c.InScope table t := by
  obtain ⟨hlength, hresolves⟩ := Join.resolves_of_resolveAll h
  have htables : t.tables table = [table] ++ t.joins.map ResolvedJoin.table := rfl
  refine ⟨?_, ?_, rfl, fun k j hj => ?_⟩
  · rw [htables]
    exact Join.nodup_resolveAll (List.nodup_singleton table) h
  · simp [htables, hlength]
  · obtain ⟨hk, -⟩ := List.getElem?_eq_some_iff.1 hj
    have hr : t.joins[k]? = some t.joins[k] := List.getElem?_eq_getElem (by omega)
    have hresolved := hresolves k j _ hj hr
    have htake : (t.tables table).take (k + 1) =
        [table] ++ (t.joins.take k).map ResolvedJoin.table := by
      rw [htables]
      simp
    refine ⟨t.joins[k].anchor, t.joins[k].joined, hresolved.columns, ?_, ?_, ?_, ?_⟩
    · rw [htake]
      exact hresolved.anchor_mem
    · rw [htake]
      exact hresolved.table_not_mem
    · rw [htables, List.singleton_append, List.getElem?_cons_succ, List.getElem?_map, hr]
      rfl
    · rw [List.getElem?_map, hr, Option.map_some, ResolvedJoin.sql, hresolved.kind]
      rfl

theorem order_eq_ok {tables : List TableName}
    (h : ∀ column, c.orderBy = some column → column.table ∈ tables) :
    ∃ order, c.order tables = .ok order := by
  unfold order
  cases horder : c.orderBy with
  | none => exact ⟨none, rfl⟩
  | some column =>
    have hmem := h column horder
    exact ⟨some ⟨column, c.ascending⟩, if_pos (List.contains_iff_mem.2 hmem)⟩

theorem mem_of_order_eq_ok {tables : List TableName} {order : Option Order}
    (h : c.order tables = .ok order) {column : Column} (horder : c.orderBy = some column) :
    column.table ∈ tables := by
  unfold Clauses.order at h
  rw [horder] at h
  dsimp only at h
  split at h
  · next hmem => exact List.contains_iff_mem.1 hmem
  · cases h

theorem order_of_not_mem {tables : List TableName} {column : Column}
    (horder : c.orderBy = some column) (h : column.table ∉ tables) :
    c.order tables = .error (.orderOutside column.name) := by
  unfold Clauses.order
  rw [horder]
  exact if_neg fun hmem => h (List.contains_iff_mem.1 hmem)

theorem tail_of_resolveAll {rs : List ResolvedJoin} {order : Option Order}
    (hjoins : Join.resolveAll [table] c.joins = .ok rs)
    (horder : c.order (table :: rs.map ResolvedJoin.table) = .ok order) :
    c.tail table = .ok ⟨rs, c.filters, order, c.limit, c.offset⟩ :=
  bind_eq_ok.2 ⟨rs, hjoins, bind_eq_ok.2 ⟨order, horder, rfl⟩⟩

/-- Clauses can be resolved if the tables that joins and the order need are there, and only then. -/
theorem exists_tail_iff :
    (∃ t, c.tail table = .ok t) ↔ Join.AllAnchored [table] c.joins ∧ c.OrdersInside table := by
  constructor
  · rintro ⟨t, h⟩
    obtain ⟨joins, order, hjoins, horder, -⟩ := tail_eq_ok h
    refine ⟨Join.allAnchored_of_resolveAll hjoins, fun column hcolumn => ?_⟩
    rw [← Join.mem_tables_resolveAll hjoins]
    exact mem_of_order_eq_ok horder hcolumn
  · rintro ⟨hanchored, hinside⟩
    obtain ⟨rs, hrs⟩ := Join.exists_resolveAll hanchored
    have hmem : ∀ column, c.orderBy = some column →
        column.table ∈ table :: rs.map ResolvedJoin.table := by
      intro column hcolumn
      exact (Join.mem_tables_resolveAll hrs _).2 (hinside column hcolumn)
    obtain ⟨order, horder⟩ := order_eq_ok hmem
    exact ⟨_, tail_of_resolveAll hrs horder⟩

/-- Clauses can be resolved exactly if every join finds one of its tables, and only one, among the
table of the query and those of the joins before it, and the order is by a column of one of the
tables in the end. Then the tables and the fragments of the joins are as they should be, in whatever
order joins have their columns. Otherwise the first join that does not find its tables is reported
as an error of configuration, and if there is none, the order as one of reference. -/
theorem tail_scope (c : Clauses) (table : TableName) :
    ((∃ t, c.tail table = .ok t) ↔ Join.AllAnchored [table] c.joins ∧ c.OrdersInside table) ∧
    (∀ t, c.tail table = .ok t → c.InScope table t ∧
      ∀ joins, List.Forall₂ (fun j j' => j' = j ∨ j' = j.swap) c.joins joins →
        Clauses.tail { c with joins := joins } table = .ok t) ∧
    (∀ (k : Nat) (j : Join), c.joins[k]? = some j →
      ¬j.IsAnchored (Join.tablesBefore [table] c.joins k) →
      (∀ (l : Nat) (j' : Join), l < k → c.joins[l]? = some j' →
        j'.IsAnchored (Join.tablesBefore [table] c.joins l)) →
      ∃ e, c.tail table = .error e ∧ e = j.fault (Join.tablesBefore [table] c.joins k) ∧
        e.kind = .configuration) ∧
    (∀ column, Join.AllAnchored [table] c.joins → c.orderBy = some column →
      column.table ∉ Join.tablesBefore [table] c.joins c.joins.length →
      ∃ e, c.tail table = .error e ∧ e = .orderOutside column.name ∧ e.kind = .reference) := by
  refine ⟨exists_tail_iff, fun t h => ?_, fun k j hj hnot hbefore => ?_,
    fun column hanchored horder hnot => ?_⟩
  · obtain ⟨joins, order, hjoins, horder, rfl⟩ := tail_eq_ok h
    refine ⟨inScope_of_resolveAll hjoins, fun joins' hswaps => ?_⟩
    have hjoins' := Join.resolveAll_of_swaps hswaps hjoins
    exact @tail_of_resolveAll { c with joins := joins' } table joins order hjoins' horder
  · refine ⟨_, ?_, rfl, Join.kind_fault _ j⟩
    rw [tail, Join.resolveAll_eq_error hj hbefore hnot]
    rfl
  · obtain ⟨rs, hrs⟩ := Join.exists_resolveAll hanchored
    refine ⟨_, ?_, rfl, rfl⟩
    have hnot' : column.table ∉ table :: rs.map ResolvedJoin.table := fun hmem =>
      hnot ((Join.mem_tables_resolveAll hrs _).1 hmem)
    rw [tail, hrs]
    show (c.order (table :: rs.map ResolvedJoin.table) >>= _) = _
    rw [order_of_not_mem horder hnot']
    rfl

end Clauses

/-! ### Three tables in a row -/

namespace Chain

/-- The key of a table with this name. -/
def key (table : Ident) : Column where
  name := ⟨⟨⟨"shop", by decide, by decide⟩, table⟩, ⟨"entry", by decide, by decide⟩⟩
  type := .integer
  primaryKey := true
  unique := true
  notNull := true
  default := none
  foreignKey := none

def puzzles : Column := key ⟨"puzzles", by decide, by decide⟩

def studios : Column := key ⟨"studios", by decide, by decide⟩

def cities : Column := key ⟨"cities", by decide, by decide⟩

/-- The second join needs the table of the first one, which it names last. -/
def clauses : Clauses where
  joins := [⟨.inner, studios, puzzles⟩, ⟨.left, cities, studios⟩]
  orderBy := some cities

/-- The same with a join back to the first table. -/
def circular : Clauses := { clauses with joins := clauses.joins ++ [⟨.plain, cities, puzzles⟩] }

/-- The tables are joined in a row, in whatever order the columns are given, and the first of them
cannot be joined again. -/
theorem tail_scope_chain :
    (∃ t, clauses.tail puzzles.table = .ok t ∧
      t.tables puzzles.table = [puzzles.table, studios.table, cities.table] ∧
      clauses.InScope puzzles.table t ∧
      Clauses.tail { clauses with joins := clauses.joins.map Join.swap } puzzles.table = .ok t) ∧
    circular.tail puzzles.table = .error (.joinInScope cities.name puzzles.name) := by
  obtain ⟨-, hscope, -, -⟩ := clauses.tail_scope puzzles.table
  obtain ⟨-, -, herror, -⟩ := circular.tail_scope puzzles.table
  constructor
  · obtain ⟨t, ht, htables⟩ : ∃ t, clauses.tail puzzles.table = .ok t ∧
        t.tables puzzles.table = [puzzles.table, studios.table, cities.table] := ⟨_, rfl, rfl⟩
    obtain ⟨hin, hswaps⟩ := hscope t ht
    exact ⟨t, ht, htables, hin, hswaps _ (.cons (.inr rfl) (.cons (.inr rfl) .nil))⟩
  · have hbefore : ∀ (l : Nat) (j : Join), l < 2 → circular.joins[l]? = some j →
        j.IsAnchored (Join.tablesBefore [puzzles.table] circular.joins l) := by
      intro l j hl hj
      obtain rfl | rfl : l = 0 ∨ l = 1 := by omega
      · cases hj
        decide
      · cases hj
        decide
    obtain ⟨e, he, rfl, -⟩ := herror 2 ⟨.plain, cities, puzzles⟩ rfl (by decide) hbefore
    exact he

end Chain

end TypedTable
