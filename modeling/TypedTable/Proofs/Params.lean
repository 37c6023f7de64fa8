import Mathlib.Data.List.Sort
import TypedTable.Predicate
import TypedTable.Proofs.Rendering.Bindings
/-!
# When parameters are the same

Parameters are kept in the order of their names, so they are determined by what is found in them
(`Params.ext_get?`), and their names by which names there are (`Params.names_eq_of_mem_iff`). Merging
is therefore associative, and merging the parameters of predicates after others comes to merging
them by themselves first (`paramsAfter_eq_merge`).
-/

namespace TypedTable

namespace Params

theorem names_eq_of_mem_iff {p q : Params} (h : ∀ name, name ∈ p.names ↔ name ∈ q.names) :
    p.names = q.names :=
  p.ascending.eq_of_mem_iff q.ascending h

theorem mem_entries_iff {p : Params} {name : String} {v : Value} :
    (name, v) ∈ p.entries ↔ p.get? name = some v :=
  ⟨get?_of_mem, mem_of_lookup⟩

/-- Parameters in which the same values are found are the same. -/
theorem ext_get? {p q : Params} (h : ∀ name, p.get? name = q.get? name) : p = q := by
  -- The entries are in the order of their names, and the same entries are there.
  have hp : p.entries.Pairwise fun e e' => e.1 < e'.1 := List.pairwise_map.1 p.ascending
  have hq : q.entries.Pairwise fun e e' => e.1 < e'.1 := List.pairwise_map.1 q.ascending
  have hentries : p.entries = q.entries := by
    have : Std.Irrefl fun e e' : String × Value => e.1 < e'.1 :=
      ⟨fun e => String.lt_irrefl e.1⟩
    have : Std.Antisymm fun e e' : String × Value => e.1 < e'.1 :=
      ⟨fun _ _ hlt hgt => absurd (String.lt_trans hlt hgt) (String.lt_irrefl _)⟩
    refine hp.eq_of_mem_iff hq fun ⟨name, v⟩ => ?_
    rw [mem_entries_iff, mem_entries_iff, h]
  cases p
  cases q
  cases hentries
  rfl

theorem merge_assoc (p q r : Params) : (p.merge q).merge r = p.merge (q.merge r) := by
  refine ext_get? fun name => ?_
  simp only [get?_merge, Option.or_assoc]

@[simp] theorem empty_merge (p : Params) : Params.empty.merge p = p := by
  refine ext_get? fun name => ?_
  rw [get?_merge, get?_empty, Option.or_none]

theorem mem_names_merge {p q : Params} {name : String} :
    name ∈ (p.merge q).names ↔ name ∈ q.names ∨ name ∈ p.names :=
  mem_names_insertAll

end Params

/-- Predicates add to parameters what they add to none. -/
theorem paramsAfter_eq_merge (before : Params) (parts : List Predicate) :
    Predicate.paramsAfter before parts = before.merge (Predicate.paramsAfter .empty parts) := by
  induction parts generalizing before with
  | nil => rfl
  | cons p parts ih =>
    rw [Predicate.paramsAfter, ih, Predicate.paramsAfter, ih (Params.empty.merge p.params),
      Params.empty_merge, Params.merge_assoc]

end TypedTable
