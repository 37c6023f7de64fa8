import Mathlib.Data.List.Nodup
import TypedTable.Proofs.Result
import TypedTable.Schema
/-!
# Columns of a declared table

A column of a table is determined by its name (`Schema.eq_of_ident_eq`), and the lookup by name
finds a column of the table that has this name (`Schema.column_eq_ok`).
-/

namespace TypedTable

theorem Ident.eq_of_text_eq {i j : Ident} (h : i.text = j.text) : i = j := by
  cases i
  cases j
  cases h
  rfl

namespace Schema

variable {s : Schema}

theorem table_get (s : Schema) (k : Fin s.columns.length) : (s.get k).table = s.table :=
  s.table_eq _ (List.get_mem s.columns k)

theorem eq_of_ident_eq {k l : Fin s.columns.length} (h : (s.get k).ident = (s.get l).ident) :
    k = l := by
  have hk : (k : Nat) < (s.columns.map Column.ident).length := by simp
  have hl : (l : Nat) < (s.columns.map Column.ident).length := by simp
  have hget : (s.columns.map Column.ident)[(k : Nat)] = (s.columns.map Column.ident)[(l : Nat)] := by
    rw [List.getElem_map, List.getElem_map]
    exact h
  exact Fin.ext (s.nodup.getElem_inj_iff.1 hget)

theorem columns_ne_nil (hkey : s.hasPrimaryKey = true) : s.columns ≠ [] := by
  intro hnil
  rw [hasPrimaryKey, hnil] at hkey
  exact absurd hkey (by decide)

theorem get_eq_of_getElem? {k : Fin s.columns.length} {c : Column}
    (h : s.columns[(k : Nat)]? = some c) : s.get k = c :=
  Option.some.inj ((List.getElem?_eq_getElem k.isLt).symm.trans h)

/-- A column is found by its name. -/
theorem index?_get (s : Schema) (k : Fin s.columns.length) :
    s.index? (s.get k).ident.text = some k := by
  refine List.findFinIdx?_eq_some_iff.2 ⟨decide_eq_true rfl, fun l hl hname => ?_⟩
  have heq := eq_of_ident_eq (k := l) (l := k) (Ident.eq_of_text_eq (of_decide_eq_true hname))
  exact absurd hl (heq ▸ Nat.lt_irrefl _)

theorem index_get (s : Schema) (k : Fin s.columns.length) :
    s.index (s.get k).ident.text = .ok k := by
  unfold index
  rw [s.index?_get k]

/-- A column that is found by a name has this name and belongs to the table. -/
theorem column_eq_ok {name : String} {c : Column} (h : s.column name = .ok c) :
    c.ident.text = name ∧ c.table = s.table := by
  obtain ⟨k, hk, rfl⟩ := map_eq_ok.1 h
  unfold index at hk
  split at hk
  · next hfind =>
    cases hk
    have hname := (List.findFinIdx?_eq_some_iff.1 hfind).1
    exact ⟨of_decide_eq_true hname, s.table_get k⟩
  · exact (nomatch hk)

end Schema

end TypedTable
