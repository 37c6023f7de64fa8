import TypedTable.Proofs.Statement.Reading
/-!
# Placeholders become numbers

`positional_rewrites` says what `Statement.positional` makes of a statement, in terms of the forms
of its text (`Lexes`): it fails exactly for a placeholder without a value and names the first such
one. Otherwise every placeholder becomes the number of its name in the order of first appearance,
all other characters stay, and there is one value for each name, in that order. The numbers can be
told from what follows them, no placeholder is left, and the names can be put back if no dollar
sign stood in the text outside quotations.
-/

namespace TypedTable

open Statement

/-- A placeholder behind verbatim characters stands in what follows them. -/
theorem exists_after_verbatim {name cs : List Char} {ps before after : List Piece}
    (h : verbatim cs ++ ps = before ++ .placeholder name :: after) :
    ∃ rest, ps = rest ++ .placeholder name :: after := by
  induction cs generalizing before with
  | nil => exact ⟨before, h⟩
  | cons c cs ih =>
    cases before with
    | nil => simp at h
    | cons b before =>
      obtain ⟨-, h⟩ : _ ∧ verbatim cs ++ ps = before ++ .placeholder name :: after := by simpa using h
      exact ih h

/-- No character of a name stands behind the number of a placeholder. -/
theorem Lexes.endsName_after {cs : List Char} {ps : List Piece} (h : Lexes cs ps)
    {before after : List Piece} {name : List Char} (hps : ps = before ++ .placeholder name :: after)
    (names : List String) : EndsName (after.flatMap (render names)) := by
  -- The forms are gone through up to the placeholder; none of the others contains one.
  induction h generalizing before with
  | nil => simp at hps
  | quotation _ _ _ ih =>
    obtain ⟨rest, hps⟩ := exists_after_verbatim hps
    exact ih hps
  | @openQuotation mark body =>
    rw [← List.append_nil (verbatim _)] at hps
    obtain ⟨rest, hps⟩ := exists_after_verbatim hps
    simp at hps
  | cast _ ih =>
    obtain ⟨rest, hps⟩ := exists_after_verbatim hps
    exact ih hps
  | @placeholder _ rest ps _ _ hrest h ih =>
    cases before with
    | nil =>
      obtain ⟨-, rfl⟩ : _ ∧ ps = after := by simpa using hps
      exact h.endsName_flatMap_render hrest names
    | cons b before =>
      obtain ⟨-, hps⟩ : _ ∧ ps = before ++ _ := by simpa using hps
      exact ih hps
  | colon _ _ _ ih =>
    obtain ⟨rest, hps⟩ := @exists_after_verbatim _ [':'] _ _ _ hps
    exact ih hps
  | @character c _ _ _ _ _ ih =>
    obtain ⟨rest, hps⟩ := @exists_after_verbatim _ [c] _ _ _ hps
    exact ih hps

/-- A text without placeholders is sent as it is. -/
theorem positional_of_verbatim {sql : String}
    (h : Lexes sql.toList (verbatim sql.toList)) (params : Params) :
    positional ⟨sql, params⟩ = .ok ⟨sql, []⟩ := by
  have hpieces : TypedTable.pieces sql = verbatim sql.toList := h.pieces_eq
  have htext : numberedText ⟨sql, params⟩ = sql.toList := by
    rw [numberedText, hpieces, flatMap_render_verbatim]
  have hnames : names ⟨sql, params⟩ = [] := by
    rw [names, hpieces, placeholders_verbatim]
    rfl
  rw [positional_eq, htext, hnames, hpieces, placeholders_verbatim, String.ofList_toList]
  rfl

/-- What becomes of a statement: the failure for its first placeholder without a value, or the text
in which `$k` stands for the `k`-th of its names, in the order of first appearance. -/
theorem positional_rewrites (s : Statement) :
    ∃ ps, (∀ qs, Lexes s.sql.toList qs ↔ qs = ps) ∧
      match (placeholders ps).find? s.isUnbound with
      | some name => s.positional = .error (.unboundPlaceholder name)
      | none =>
        ∃ p names, s.positional = .ok p ∧ names = (placeholders ps).eraseDups ∧
          p.sql.toList = ps.flatMap (render names) ∧
          p.values.map some = names.map s.params.get? ∧
          (∀ before name after, ps = before ++ .placeholder name :: after →
            EndsName (after.flatMap (render names))) ∧
          positional ⟨p.sql, .empty⟩ = .ok ⟨p.sql, []⟩ ∧
          ('$' ∉ unquoted none s.sql.toList → restore names p.sql.toList = s.sql.toList) := by
  have hlexes := lexes_pieces s.sql
  refine ⟨TypedTable.pieces s.sql, fun qs => lexes_iff, ?_⟩
  have hpositional := positional_eq s
  cases hfind : (placeholders (TypedTable.pieces s.sql)).find? s.isUnbound with
  | some name =>
    rw [hfind] at hpositional
    exact hpositional
  | none =>
    rw [hfind] at hpositional
    -- The text that is sent, as a list of characters that the forms speak of.
    have htext : (String.ofList s.numberedText).toList =
        (TypedTable.pieces s.sql).flatMap (render s.names) := String.toList_ofList
    refine ⟨_, s.names, hpositional, rfl, htext,
      map_some_filterMap (isSome_of_find?_eq_none hfind), ?_, ?_, ?_⟩
    -- The numbers can be told from what follows them.
    · intro before name after hps
      exact hlexes.endsName_after hps s.names
    -- No placeholder is left.
    · refine positional_of_verbatim ?_ _
      rw [htext]
      exact hlexes.flatMap_render s.names
    -- The names can be put back.
    · intro hdollar
      rw [htext]
      exact hlexes.restore_flatMap_render hdollar fun name hname => mem_names.2 hname

end TypedTable
