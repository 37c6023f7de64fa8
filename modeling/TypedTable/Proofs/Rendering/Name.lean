import TypedTable.Proofs.Rendering.Template
import TypedTable.Proofs.Schema
import TypedTable.Query.Insert
import TypedTable.Query.Update
/-!
# Names in statements

A name stands in a statement in double quotes, and as part of the names that values are bound under.
In quotes it stands for itself (`inert_column`), and so do the expressions that the server draws
values from (`inert_generator`), which are made of names and numbers.

The names of bound values are names again. One that ends in a number can be taken apart at its last
underscore, since a number has none (`append_number_inj`): comparisons with different numbers and
cells of different rows or columns have different names.
-/

namespace TypedTable

open Template

/-! ### Quoted names -/

theorem forall_mem_ident (i : Ident) : ∀ c ∈ i.text.toList, isNameCharacter c = true :=
  List.all_eq_true.1 i.legal

theorem inert_ident (i : Ident) : Inert i.sql := by
  refine @inert_quotation '"' (.inr rfl) i.text fun hmem => ?_
  exact absurd (forall_mem_ident i '"' hmem) (by decide)

theorem inert_table (t : TableName) : Inert t.sql :=
  ((inert_ident t.schema).append (inert_of_all (by decide))).append (inert_ident t.table)

theorem inert_column (c : ColumnName) : Inert c.sql :=
  ((inert_table c.table).append (inert_of_all (by decide))).append (inert_ident c.column)

theorem inert_naturalText (n : Nat) : Inert (Text.naturalText n) := by
  refine inert_of_all (List.all_eq_true.2 fun c hc => ?_)
  rw [Text.naturalText, String.toList_ofList] at hc
  exact isOrdinary_of_isNameCharacter (isNameCharacter_of_mem_natural hc)

/-- Inert texts with an inert separator between them stand for themselves. -/
theorem inert_separated {sep : String} (hsep : Inert sep) {ss : List String}
    (h : ∀ s ∈ ss, Inert s) : Inert (Text.separated sep ss) := by
  induction ss with
  | nil =>
    show Inert ""
    exact inert_of_all (by decide)
  | cons s ss ih =>
    obtain ⟨hs, hss⟩ := List.forall_mem_cons.1 h
    cases ss with
    | nil => exact hs
    | cons s' ss => exact (hs.append hsep).append (ih hss)

theorem inert_commas {ss : List String} (h : ∀ s ∈ ss, Inert s) : Inert (Text.commas ss) :=
  inert_separated (inert_of_all (by decide)) h

theorem inert_interval : Inert Generator.interval :=
  (inert_of_all (s := "INTERVAL ") (by decide)).append
    (@inert_quotation '\'' (.inl rfl) "20 years" (by decide))

/-- What a server draws values from stands for itself. -/
theorem inert_generator (g : Generator) : Inert g.sql := by
  cases g with
  | boolean => exact inert_of_all (by decide)
  | integer span low width =>
    have hsign : Inert (if low < 0 then "- " else "+ ") := by
      split
      · exact inert_of_all (by decide)
      · exact inert_of_all (by decide)
    have hwidth : Inert width.name := by
      cases width <;> exact inert_of_all (by decide)
    have hspan := (inert_of_all (s := "CAST(FLOOR(RANDOM() * ") (by decide)).append
      (inert_naturalText span)
    have hlow := ((hspan.append (inert_of_all (s := ") ") (by decide))).append hsign).append
      (inert_naturalText low.natAbs)
    exact ((hlow.append (inert_of_all (by decide))).append hwidth).append
      (inert_of_all (by decide))
  | numeric bound scale =>
    have hbound := (inert_of_all (s := "TRUNC(CAST(RANDOM() * ") (by decide)).append
      (inert_naturalText bound)
    exact ((hbound.append (inert_of_all (by decide))).append (inert_naturalText scale)).append
      (inert_of_all (by decide))
  | date =>
    exact ((inert_of_all (by decide)).append inert_interval).append (inert_of_all (by decide))
  | timestamp => exact (inert_of_all (by decide)).append inert_interval
  | characters length =>
    exact ((inert_of_all (by decide)).append (inert_naturalText length)).append
      (inert_of_all (by decide))
  | existing column =>
    have hcolumn := (inert_of_all (s := "(SELECT ") (by decide)).append (inert_column column)
    exact ((hcolumn.append (inert_of_all (by decide))).append (inert_table column.table)).append
      (inert_of_all (by decide))

/-! ### Names of bound values -/

/-- A text that can be the name of a placeholder. -/
structure IsName (s : String) : Prop where
  ne_nil : s.toList ≠ []
  forall_mem : ∀ c ∈ s.toList, isNameCharacter c = true

theorem isName_ident (i : Ident) : IsName i.text := ⟨i.nonempty, forall_mem_ident i⟩

theorem isName_naturalText (n : Nat) : IsName (Text.naturalText n) := by
  constructor
  · rw [Text.naturalText, String.toList_ofList]
    exact Nat.toDigits_ne_nil
  · intro c hc
    rw [Text.naturalText, String.toList_ofList] at hc
    exact isNameCharacter_of_mem_natural hc

/-- Two names with an underscore between them are a name. -/
theorem IsName.append {s s' : String} (h : IsName s) (h' : IsName s') :
    IsName (s ++ "_" ++ s') := by
  constructor
  · intro hnil
    apply h.ne_nil
    rw [String.append_assoc, String.toList_append, List.append_eq_nil_iff] at hnil
    exact hnil.1
  · intro c hc
    rw [String.toList_append, String.toList_append, List.mem_append, List.mem_append] at hc
    rcases hc with (hc | hc) | hc
    · exact h.forall_mem c hc
    · obtain rfl : c = '_' := by simpa using hc
      decide
    · exact h'.forall_mem c hc

theorem IsName.renders {name : String} (h : IsName name) (v : Value) :
    Renders (":" ++ name) [.value name v] :=
  renders_placeholder h.ne_nil h.forall_mem v

theorem isName_comparator (comparator : Comparator) : IsName comparator.name := by
  cases comparator <;> exact ⟨by decide, List.all_eq_true.1 (by decide)⟩

theorem isName_boundName (column : Column) (comparator : Comparator) (number : Nat) :
    IsName (boundName column comparator number) :=
  (((isName_ident column.table.table).append (isName_ident column.ident)).append
    (isName_comparator comparator)).append (isName_naturalText number)

theorem isName_assignment (column : Column) : IsName (Assignment.boundName column) :=
  (isName_ident column.table.table).append (isName_ident column.ident)

theorem isName_cell (column : Column) (row : Nat) : IsName (InsertCell.boundName column row) :=
  ((isName_ident column.table.table).append (isName_ident column.ident)).append
    (isName_naturalText row)

/-! ### Which names are the same -/

/-- A list is taken apart at the last place where a member stands. -/
theorem append_cons_inj {α : Type} {x : α} {l l' r r' : List α} (h : l ++ x :: r = l' ++ x :: r')
    (hr : x ∉ r) (hr' : x ∉ r') : l = l' ∧ r = r' := by
  have hlast : ∀ {a r r' : List α}, x :: r = a ++ x :: r' → x ∉ r → a = [] ∧ r = r' := by
    intro a r r' heq hr
    cases a with
    | nil => exact ⟨rfl, (List.cons.inj heq).2⟩
    | cons y a =>
      -- The place would not be the last one.
      refine absurd ?_ hr
      rw [(List.cons.inj heq).2]
      exact List.mem_append_right _ List.mem_cons_self
  rcases List.append_eq_append_iff.1 h with ⟨a, rfl, heq⟩ | ⟨a, rfl, heq⟩
  · obtain ⟨rfl, hrr⟩ := hlast heq hr
    exact ⟨(List.append_nil l).symm, hrr⟩
  · obtain ⟨rfl, hrr⟩ := hlast heq hr'
    exact ⟨List.append_nil l', hrr.symm⟩

/-- A name with a number at its end can be taken apart. -/
theorem append_number_inj {s s' : String} {n n' : Nat}
    (h : s ++ "_" ++ Text.naturalText n = s' ++ "_" ++ Text.naturalText n') : s = s' ∧ n = n' := by
  have hchars : s.toList ++ '_' :: Text.natural n = s'.toList ++ '_' :: Text.natural n' := by
    simpa [Text.naturalText] using congrArg String.toList h
  -- Digits are no underscores, so the last underscore is the one in front of the number.
  obtain ⟨hs, hn⟩ := append_cons_inj hchars Nat.underscore_not_in_toDigits
    Nat.underscore_not_in_toDigits
  refine ⟨String.toList_inj.1 hs, ?_⟩
  have hvalue := congrArg (Nat.ofDigitChars 10 · 0) hn
  simpa [Text.natural, Nat.ofDigitChars_ten_toDigits] using hvalue

/-- Comparisons that bind their values under one name have one number. -/
theorem number_eq_of_boundName_eq {c c' : Column} {o o' : Comparator} {n n' : Nat}
    (h : boundName c o n = boundName c' o' n') : n = n' :=
  (append_number_inj h).2

/-- Columns of one table whose values are assigned under one name have one name. -/
theorem ident_eq_of_assignment_eq {c c' : Column} (htable : c.table = c'.table)
    (h : Assignment.boundName c = Assignment.boundName c') : c.ident = c'.ident := by
  rw [Assignment.boundName, Assignment.boundName, htable, String.append_assoc,
    String.append_assoc] at h
  have hchars := congrArg String.toList h
  -- The table's name and the underscore are the same on both sides.
  simp only [String.toList_append, List.append_cancel_left_eq] at hchars
  exact Ident.eq_of_text_eq (String.toList_inj.1 hchars)

/-- Cells of one table whose values are bound under one name are the same cell. -/
theorem cell_eq_of_boundName_eq {c c' : Column} {row row' : Nat} (htable : c.table = c'.table)
    (h : InsertCell.boundName c row = InsertCell.boundName c' row') :
    c.ident = c'.ident ∧ row = row' := by
  obtain ⟨hname, hrow⟩ := append_number_inj h
  exact ⟨ident_eq_of_assignment_eq htable hname, hrow⟩

end TypedTable
