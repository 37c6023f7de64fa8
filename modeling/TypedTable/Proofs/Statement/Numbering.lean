import Mathlib.Data.List.Induction
import TypedTable.Proofs.Statement.Grammar
/-!
# The numbers of the placeholders

`Statement.names` lists the names of the placeholders of a statement, each at its first appearance:
the place in this list is the number of a name. `positional_eq` says all that
`Statement.positional` does in terms of this list: it fails for the first name without a value, and
otherwise writes the place of its name for every placeholder and lists the values in the order of
the names.
-/

namespace TypedTable

/-! ### First appearances -/

/-- No name is listed twice. -/
theorem nodup_eraseDups (l : List String) : l.eraseDups.Nodup := by
  induction hn : l.length using Nat.strongRecOn generalizing l with
  | ind n ih =>
  subst hn
  cases l with
  | nil => exact List.nodup_nil
  | cons a l =>
    have hlt : (l.filter fun b => !b == a).length < (a :: l).length :=
      Nat.lt_succ_of_le (List.length_filter_le _ l)
    rw [List.eraseDups_cons, List.nodup_cons]
    exact ⟨by simp, ih _ hlt _ rfl⟩

/-- The first member with a property is also the first one among the first appearances. -/
theorem find?_eraseDups (p : String → Bool) (l : List String) : l.eraseDups.find? p = l.find? p := by
  induction hn : l.length using Nat.strongRecOn generalizing l with
  | ind n ih =>
  subst hn
  cases l with
  | nil => rfl
  | cons a l =>
    have hlt : (l.filter fun b => !b == a).length < (a :: l).length :=
      Nat.lt_succ_of_le (List.length_filter_le _ l)
    rw [List.eraseDups_cons, List.find?_cons, List.find?_cons, ih _ hlt _ rfl]
    cases ha : p a with
    | true => rfl
    | false =>
      -- What was left out are copies of `a`, which does not have the property.
      rw [List.find?_filter]
      refine congrArg (List.find? · l) (funext fun b => ?_)
      by_cases hb : b = a
      · subst hb
        simp [ha]
      · simp [hb]

/-- One more member is a first appearance exactly if it was not there before. -/
theorem eraseDups_concat (l : List String) (a : String) :
    (l ++ [a]).eraseDups = if a ∈ l then l.eraseDups else l.eraseDups ++ [a] := by
  rw [List.eraseDups_append]
  by_cases ha : a ∈ l
  · simp [List.removeAll, ha]
  · simp [List.removeAll, ha, List.eraseDups_cons]

/-! ### Names and values -/

theorem placeholders_append (ps qs : List Piece) :
    placeholders (ps ++ qs) = placeholders ps ++ placeholders qs :=
  List.filterMap_append

@[simp] theorem placeholders_nil : placeholders [] = [] := rfl

@[simp] theorem placeholders_verbatim (cs : List Char) : placeholders (verbatim cs) = [] := by
  induction cs with
  | nil => rfl
  | cons c cs ih => exact ih

@[simp] theorem placeholders_verbatim_cons (c : Char) (ps : List Piece) :
    placeholders (.verbatim c :: ps) = placeholders ps := rfl

namespace Statement

/-- Reading the pieces from left to right gives a number to every name at its first appearance. -/
theorem foldl_numbered (ps : List Piece) : ps.foldl numbered [] = (placeholders ps).eraseDups := by
  induction ps using List.reverseRecOn with
  | nil => rfl
  | append_singleton ps p ih =>
    rw [List.foldl_append, List.foldl_cons, List.foldl_nil, ih, placeholders_append]
    cases p with
    | verbatim c => simp [numbered]
    | placeholder name =>
      show numbered _ _ = (placeholders ps ++ [String.ofList name]).eraseDups
      rw [eraseDups_concat, numbered]
      by_cases h : String.ofList name ∈ placeholders ps
      · simp [h]
      · simp [h]

/-- The names that the text refers to, in the order of their numbers. -/
def names (s : Statement) : List String := (placeholders (TypedTable.pieces s.sql)).eraseDups

theorem mem_names {s : Statement} {name : String} :
    name ∈ s.names ↔ name ∈ placeholders (TypedTable.pieces s.sql) :=
  List.mem_eraseDups

/-- Whether a name has no value. -/
def isUnbound (s : Statement) (name : String) : Bool := (s.params.get? name).isNone

/-- Values are looked up name by name, up to the first name without one. -/
theorem mapM_value (s : Statement) (l : List String) :
    l.mapM s.value = match l.find? s.isUnbound with
      | some name => .error (.unboundPlaceholder name)
      | none => .ok (l.filterMap s.params.get?) := by
  induction l with
  | nil => rfl
  | cons name l ih =>
    rw [List.mapM_cons, ih, List.find?_cons, List.filterMap_cons]
    unfold isUnbound value
    cases s.params.get? name with
    | none => rfl
    | some v =>
      simp only [Option.isNone_some]
      cases l.find? fun name => (s.params.get? name).isNone with
      | some other => rfl
      | none => rfl

/-- The text with the numbers of its names. -/
def numberedText (s : Statement) : List Char := (TypedTable.pieces s.sql).flatMap (render s.names)

/-- Numbering the placeholders fails for the first one without a value; without a failure it gives
the text with the numbers in it and the values of the names. -/
theorem positional_eq (s : Statement) :
    s.positional = match (placeholders (TypedTable.pieces s.sql)).find? s.isUnbound with
      | some name => .error (.unboundPlaceholder name)
      | none => .ok ⟨String.ofList s.numberedText, s.names.filterMap s.params.get?⟩ := by
  have hfind := find?_eraseDups s.isUnbound (placeholders (TypedTable.pieces s.sql))
  unfold positional
  simp only [foldl_numbered]
  rw [mapM_value, hfind]
  cases (placeholders (TypedTable.pieces s.sql)).find? s.isUnbound with
  | some name => rfl
  | none => rfl

/-- Without a placeholder that has no value, every name has one. -/
theorem isSome_of_find?_eq_none {s : Statement}
    (h : (placeholders (TypedTable.pieces s.sql)).find? s.isUnbound = none) :
    ∀ name ∈ s.names, (s.params.get? name).isSome := by
  intro name hname
  have hbound := List.find?_eq_none.1 h name (mem_names.1 hname)
  simpa [isUnbound, Option.isSome_iff_ne_none] using hbound

/-- If every name has a value, these are the values in the order of the names. -/
theorem map_some_filterMap {s : Statement} (h : ∀ name ∈ s.names, (s.params.get? name).isSome) :
    (s.names.filterMap s.params.get?).map some = s.names.map s.params.get? := by
  generalize s.names = l at h
  induction l with
  | nil => rfl
  | cons name l ih =>
    obtain ⟨hname, hl⟩ := List.forall_mem_cons.1 h
    obtain ⟨v, hv⟩ := Option.isSome_iff_exists.1 hname
    rw [List.filterMap_cons_some hv, List.map_cons, ih hl, List.map_cons, hv]

end Statement

end TypedTable
