import Mathlib.Data.List.Induction
import TypedTable.Clauses
import TypedTable.Proofs.Result
/-!
# Adding clauses

A clause that is not in error changes one thing (`Clauses.Takes`), and an error is kept: so if there
is none in the end, every clause was taken (`Clauses.taken_add`). Nothing but filters is there
exactly if nothing else was asked for (`Clauses.isPlain_addAll`), and resolving the clauses keeps
that (`Clauses.isPlain_tail`).
-/

namespace TypedTable

namespace Clauses

/-- What a clause that is not in error changes. -/
inductive Takes (c : Clauses) : Clause → Clauses → Prop
  | join (j : Join) : Takes c (.join j) { c with joins := c.joins ++ [j] }
  | filter (p : Predicate) : Takes c (.filter (.ok p)) { c with filters := c.filters ++ [p] }
  | orderBy (column : Column) : Takes c (.orderBy column) { c with orderBy := some column }
  | ascending (up : Bool) : Takes c (.ascending up) { c with ascending := up }
  | limit (n : Int) : Takes c (.limit n) { c with limit := some n.toNat }
  | offset (n : Int) : Takes c (.offset n) { c with offset := some n.toNat }

theorem error_fail_ne_none (c : Clauses) (e : Error) : (c.fail e).error ≠ none := by
  cases hc : c.error <;> simp [fail, hc]

/-- If there is no error after a clause was added, there was none before and the clause was taken. -/
theorem taken_add {c : Clauses} {clause : Clause} (h : (c.add clause).error = none) :
    c.error = none ∧ c.Takes clause (c.add clause) := by
  cases clause with
  | join j => exact ⟨h, .join j⟩
  | orderBy column => exact ⟨h, .orderBy column⟩
  | ascending up => exact ⟨h, .ascending up⟩
  | filter condition =>
    cases condition with
    | ok p => exact ⟨h, .filter p⟩
    | error e => exact absurd h (c.error_fail_ne_none e)
  | limit n =>
    by_cases hn : n < 0
    · rw [add, if_pos hn] at h
      exact absurd h (c.error_fail_ne_none _)
    · rw [add, if_neg hn] at h ⊢
      exact ⟨h, .limit n⟩
  | offset n =>
    by_cases hn : n < 0
    · rw [add, if_pos hn] at h
      exact absurd h (c.error_fail_ne_none _)
    · rw [add, if_neg hn] at h ⊢
      exact ⟨h, .offset n⟩

/-- The check succeeds if no clause was in error. -/
theorem check_eq_ok {c : Clauses} : c.check = .ok () ↔ c.error = none := by
  unfold check
  cases c.error with
  | none => exact ⟨fun _ => rfl, fun _ => rfl⟩
  | some e => exact ⟨fun h => (nomatch h), fun h => (nomatch h)⟩

end Clauses

/-- Whether a clause is neither a join nor an order, a limit or an offset. A direction by itself
orders nothing. -/
def Clause.isFiltering : Clause → Bool
  | .filter _ | .ascending _ => true
  | .join _ | .orderBy _ | .limit _ | .offset _ => false

namespace Clauses

/-- Whether there is no join, order, limit or offset. -/
def isPlain (c : Clauses) : Bool :=
  c.joins.isEmpty && c.orderBy.isNone && c.limit.isNone && c.offset.isNone

theorem Takes.isPlain_eq {c c' : Clauses} {clause : Clause} (h : c.Takes clause c') :
    c'.isPlain = (c.isPlain && clause.isFiltering) := by
  cases h <;> simp [isPlain, Clause.isFiltering]

/-- Nothing but filters is there exactly if nothing else was asked for. -/
theorem isPlain_addAll {calls : List Clause} (h : (addAll {} calls).error = none) :
    (addAll {} calls).isPlain = calls.all Clause.isFiltering := by
  induction calls using List.reverseRecOn with
  | nil => rfl
  | append_singleton calls clause ih =>
    rw [addAll_append] at h ⊢
    obtain ⟨hbefore, htaken⟩ := taken_add h
    show ((addAll {} calls).add clause).isPlain = _
    rw [htaken.isPlain_eq, ih hbefore]
    simp

/-- What the clauses are resolved to. -/
theorem tail_eq_ok {c : Clauses} {table : TableName} {t : Tail} (h : c.tail table = .ok t) :
    ∃ joins order, Join.resolveAll [table] c.joins = .ok joins ∧
      c.order (table :: joins.map ResolvedJoin.table) = .ok order ∧
      t = ⟨joins, c.filters, order, c.limit, c.offset⟩ := by
  obtain ⟨joins, hjoins, h⟩ := bind_eq_ok.1 h
  obtain ⟨order, horder, h⟩ := bind_eq_ok.1 h
  exact ⟨joins, order, hjoins, horder, (Except.ok.inj h).symm⟩

theorem isEmpty_resolveAll {scope : List TableName} {joins : List Join} {rs : List ResolvedJoin}
    (h : Join.resolveAll scope joins = .ok rs) : rs.isEmpty = joins.isEmpty := by
  cases joins with
  | nil =>
    cases h
    rfl
  | cons j joins =>
    obtain ⟨r, -, h⟩ := bind_eq_ok.1 h
    obtain ⟨others, -, h⟩ := bind_eq_ok.1 h
    cases h
    rfl

theorem isNone_order {c : Clauses} {tables : List TableName} {order : Option Order}
    (h : c.order tables = .ok order) : order.isNone = c.orderBy.isNone := by
  unfold Clauses.order at h
  split at h
  · next hnone =>
    cases h
    rw [hnone]
    rfl
  · next hsome =>
    split at h
    · cases h
      rw [hsome]
      rfl
    · exact (nomatch h)

/-- Resolving clauses adds none and drops none. -/
theorem isPlain_tail {c : Clauses} {table : TableName} {t : Tail} (h : c.tail table = .ok t) :
    t.isPlain = c.isPlain := by
  obtain ⟨joins, order, hjoins, horder, rfl⟩ := tail_eq_ok h
  rw [Tail.isPlain, isPlain, isEmpty_resolveAll hjoins, isNone_order horder]

end Clauses

end TypedTable
