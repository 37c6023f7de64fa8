import TypedTable.Proofs.Rendering.Name
/-!
# Names that are told apart and left alone

A server knows tables and columns by their texts only. A name has no quotation mark in it, so a
quoted name ends at the second mark, and the names can be read off the text again: tables and
columns have the same text exactly if they are the same (`TableName.sql_inj`,
`ColumnName.sql_inj`).

`ScanState.after` is the state that the scanner is in behind a text, and `openMark` the quotation
that is open there. Wherever no quotation is open, the text of a name is sent as it is, and what
follows it is read as if it stood alone (`QuotedName.pieces_eq`).

`quotedNames_unambiguous` puts both together and says what becomes of the whole statement.
-/

namespace TypedTable

/-! ### Which texts are the same -/

/-- Texts are taken apart at the first place where a mark stands. -/
theorem append_mark_inj {mark : Char} {cs cs' rest rest' : List Char} (hcs : mark ∉ cs)
    (hcs' : mark ∉ cs') (h : cs ++ mark :: rest = cs' ++ mark :: rest') :
    cs = cs' ∧ rest = rest' := by
  -- Read backwards, the first place is the last one.
  have hreverse : rest.reverse ++ mark :: cs.reverse = rest'.reverse ++ mark :: cs'.reverse := by
    simpa using congrArg List.reverse h
  obtain ⟨hrest, hname⟩ := append_cons_inj hreverse (by rwa [List.mem_reverse])
    (by rwa [List.mem_reverse])
  exact ⟨List.reverse_inj.1 hname, List.reverse_inj.1 hrest⟩

theorem toList_sql_ident (i : Ident) : i.sql.toList = '"' :: (i.text.toList ++ ['"']) := by
  simp [Ident.sql]

theorem mark_not_mem_ident (i : Ident) : '"' ∉ i.text.toList := fun hmem =>
  absurd (forall_mem_ident i '"' hmem) (by decide)

/-- A name and what follows it can be told from the text. -/
theorem Ident.sql_append_inj {i j : Ident} {rest rest' : List Char}
    (h : i.sql.toList ++ rest = j.sql.toList ++ rest') : i = j ∧ rest = rest' := by
  simp only [toList_sql_ident, List.cons_append, List.append_assoc, List.nil_append,
    List.cons.injEq, true_and] at h
  obtain ⟨htext, hrest⟩ := append_mark_inj (mark_not_mem_ident i) (mark_not_mem_ident j) h
  exact ⟨Ident.eq_of_text_eq (String.toList_inj.1 htext), hrest⟩

theorem toList_sql_table (t : TableName) :
    t.sql.toList = t.schema.sql.toList ++ '.' :: t.table.sql.toList := by
  simp [TableName.sql]

/-- A table and what follows it can be told from the text. -/
theorem TableName.sql_append_inj {t u : TableName} {rest rest' : List Char}
    (h : t.sql.toList ++ rest = u.sql.toList ++ rest') : t = u ∧ rest = rest' := by
  simp only [toList_sql_table, List.append_assoc, List.cons_append] at h
  obtain ⟨hschema, h⟩ := Ident.sql_append_inj h
  obtain ⟨htable, hrest⟩ := Ident.sql_append_inj (List.cons.inj h).2
  obtain ⟨schema, table⟩ := t
  exact ⟨by rw [show schema = u.schema from hschema, show table = u.table from htable], hrest⟩

/-- Tables have the same text exactly if they are the same. -/
theorem TableName.sql_inj {t u : TableName} : t.sql = u.sql ↔ t = u := by
  constructor
  · intro h
    have hnil : t.sql.toList ++ [] = u.sql.toList ++ [] := by rw [h]
    exact (TableName.sql_append_inj hnil).1
  · rintro rfl
    rfl

/-- Columns have the same text exactly if their names are the same. -/
theorem ColumnName.sql_inj {c d : ColumnName} : c.sql = d.sql ↔ c = d := by
  constructor
  · intro h
    have hchars := congrArg String.toList h
    simp only [ColumnName.sql, String.toList_append, List.append_assoc] at hchars
    obtain ⟨htable, hchars⟩ := TableName.sql_append_inj hchars
    have hcolumn : c.column.sql.toList ++ [] = d.column.sql.toList ++ [] := by simpa using hchars
    obtain ⟨table, column⟩ := c
    rw [show table = d.table from htable,
      show column = d.column from (Ident.sql_append_inj hcolumn).1]
  · rintro rfl
    rfl

theorem ColumnName.eq_iff_text {c d : ColumnName} : c = d ↔
    c.table.schema.text = d.table.schema.text ∧ c.table.table.text = d.table.table.text ∧
      c.column.text = d.column.text := by
  constructor
  · rintro rfl
    exact ⟨rfl, rfl, rfl⟩
  · rintro ⟨hschema, htable, hcolumn⟩
    obtain ⟨⟨schema, table⟩, column⟩ := c
    rw [show schema = d.table.schema from Ident.eq_of_text_eq hschema,
      show table = d.table.table from Ident.eq_of_text_eq htable,
      show column = d.column from Ident.eq_of_text_eq hcolumn]

/-! ### The quotation that is open behind a text -/

/-- The mark that would close the quotation that is open behind one more character. -/
def nextMark : Option Char → Char → Option Char
  | none, c => if c = '\'' ∨ c = '"' then some c else none
  | some mark, c => if c = mark then none else some mark

/-- The mark that would close the quotation that is open behind a text, if one is. -/
def openMark (cs : List Char) : Option Char := cs.foldl nextMark none

namespace ScanState

/-- The state behind a text that is read from a state on. -/
def after (s : ScanState) (cs : List Char) : ScanState := cs.foldl (fun s c => (s.step c).1) s

/-- The mark that the scanner waits for. -/
def mark : ScanState → Option Char
  | quoted mark => some mark
  | plain | colon | name _ => none

theorem after_append (s : ScanState) (cs ds : List Char) :
    s.after (cs ++ ds) = (s.after cs).after ds := List.foldl_append

theorem mark_start (c : Char) : (start c).1.mark = nextMark none c := by
  show (start c).1.mark = if c = '\'' ∨ c = '"' then some c else none
  unfold start
  by_cases hcolon : c = ':'
  · subst hcolon
    rfl
  · rw [if_neg hcolon]
    split <;> rfl

theorem mark_step (s : ScanState) (c : Char) : (s.step c).1.mark = nextMark s.mark c := by
  -- Neither a colon nor a character of a name is a quotation mark.
  have hname : isNameCharacter c = true → nextMark none c = none := fun hc =>
    if_neg (not_isQuote_of_isNameCharacter hc)
  have hcolon : c = ':' → nextMark none c = none := by
    rintro rfl
    rfl
  cases s with
  | plain => exact mark_start c
  | quoted mark =>
    show (if c = mark then plain else quoted mark).mark = if c = mark then none else some mark
    split <;> rfl
  | colon =>
    rw [step]
    split
    · next hc => exact (hcolon hc).symm
    · split
      · next hc => exact (hname hc).symm
      · exact mark_start c
  | name characters =>
    rw [step]
    split
    · next hc => exact (hname hc).symm
    · exact mark_start c

/-- The scanner is inside quotes exactly where a quotation is open. -/
theorem mark_after (s : ScanState) (cs : List Char) :
    (s.after cs).mark = cs.foldl nextMark s.mark := by
  induction cs generalizing s with
  | nil => rfl
  | cons c cs ih =>
    rw [List.foldl_cons, ← mark_step]
    exact ih _

/-- Outside quotes a quotation mark completes what was read before, and nothing else does. -/
theorem pieces_quote {s : ScanState} (h : s.mark = none) {c : Char} (hc : IsQuote c)
    (rest : List Char) : s.pieces (c :: rest) = s.finish ++ plain.pieces (c :: rest) := by
  have hends : isNameCharacter c = false := by
    cases hname : isNameCharacter c with
    | false => rfl
    | true => exact absurd hc (not_isQuote_of_isNameCharacter hname)
  have hcolon : c ≠ ':' := by
    rintro rfl
    rcases hc with hc | hc <;> exact absurd hc (by decide)
  cases s with
  | plain => rfl
  | quoted mark => exact (nomatch h)
  | colon =>
    rw [pieces_cons, step_colon_ends hcolon hends]
    rfl
  | name characters =>
    rw [pieces_cons, step_name_ends hends]
    rfl

/-- A text with an open quotation mark behind it is read as if it ended there. -/
theorem pieces_append_quote {s : ScanState} {cs : List Char} (h : (s.after cs).mark = none)
    {c : Char} (hc : IsQuote c) (rest : List Char) :
    s.pieces (cs ++ c :: rest) = s.pieces cs ++ plain.pieces (c :: rest) := by
  induction cs generalizing s with
  | nil => exact pieces_quote h hc rest
  | cons d cs ih => rw [List.cons_append, pieces_cons, pieces_cons, ih h, List.append_assoc]

/-- Behind the mark that closes a quotation the scanner is in the plain state. -/
theorem after_quoted {mark : Char} {cs : List Char} (h : mark ∉ cs) :
    (quoted mark).after (cs ++ [mark]) = plain := by
  induction cs with
  | nil =>
    show (if mark = mark then plain else quoted mark) = plain
    exact if_pos rfl
  | cons c cs ih =>
    obtain ⟨hne, hcs⟩ : mark ≠ c ∧ mark ∉ cs := by simpa using h
    show (if c = mark then plain else quoted mark).after (cs ++ [mark]) = plain
    rw [if_neg (Ne.symm hne), ih hcs]

/-- Outside quotes a mark opens a quotation in every state. -/
theorem step_quote {s : ScanState} (h : s.mark = none) : (s.step '"').1 = quoted '"' := by
  cases s with
  | quoted mark => exact (nomatch h)
  | plain | colon | name characters => rfl

theorem after_ident {s : ScanState} (h : s.mark = none) (i : Ident) :
    s.after i.sql.toList = plain := by
  rw [toList_sql_ident]
  show (s.step '"').1.after (i.text.toList ++ ['"']) = plain
  rw [step_quote h, after_quoted (mark_not_mem_ident i)]

theorem after_table {s : ScanState} (h : s.mark = none) (t : TableName) :
    s.after t.sql.toList = plain := by
  rw [toList_sql_table, after_append, after_ident h]
  exact after_ident rfl t.table

end ScanState

/-! ### Names in a statement -/

/-- The texts that names are written as. -/
inductive QuotedName : String → Prop
  | ident (i : Ident) : QuotedName i.sql
  | table (t : TableName) : QuotedName t.sql
  | column (c : Column) : QuotedName c.sql

namespace QuotedName

variable {text : String}

theorem inert (h : QuotedName text) : Inert text := by
  cases h with
  | ident i => exact inert_ident i
  | table t => exact inert_table t
  | column c => exact inert_column c.name

theorem exists_toList_eq (h : QuotedName text) : ∃ rest, text.toList = '"' :: rest := by
  cases h with
  | ident i => exact ⟨_, toList_sql_ident i⟩
  | table t =>
    rw [toList_sql_table, toList_sql_ident]
    exact ⟨_, rfl⟩
  | column c =>
    rw [Column.sql, ColumnName.sql, String.toList_append, String.toList_append, toList_sql_table,
      toList_sql_ident]
    exact ⟨_, rfl⟩

/-- Behind a name the scanner is in the plain state. -/
theorem after_eq (h : QuotedName text) {s : ScanState} (hs : s.mark = none) :
    s.after text.toList = .plain := by
  cases h with
  | ident i => exact ScanState.after_ident hs i
  | table t => exact ScanState.after_table hs t
  | column c =>
    have htext : c.sql.toList = c.table.sql.toList ++ '.' :: c.ident.sql.toList := by
      simp [Column.sql, ColumnName.sql, Column.table, Column.ident]
    rw [htext, ScanState.after_append, ScanState.after_table hs]
    exact ScanState.after_ident rfl c.ident

/-- Where no quotation is open, a name is sent as it is, and the texts around it are read as if they
stood alone. -/
theorem pieces_eq (h : QuotedName text) {before : String} (hbefore : openMark before.toList = none)
    (after : String) :
    pieces (before ++ text ++ after) = pieces before ++ verbatim text.toList ++ pieces after := by
  obtain ⟨rest, htext⟩ := h.exists_toList_eq
  have hname : ScanState.plain.pieces (text.toList ++ after.toList) =
      verbatim text.toList ++ pieces after :=
    (h.inert.lexes (lexes_pieces after)).pieces_eq
  have hmark : (ScanState.plain.after before.toList).mark = none :=
    (ScanState.mark_after ..).trans hbefore
  show ScanState.plain.pieces (before ++ text ++ after).toList = _
  rw [String.toList_append, String.toList_append, List.append_assoc, List.append_assoc, ← hname,
    htext, List.cons_append, ScanState.pieces_append_quote hmark (.inr rfl)]
  rfl

end QuotedName

/-- An SQL text with numbers in place of the names of its placeholders. -/
def numberedBy (names : List String) (sql : String) : String :=
  String.ofList ((pieces sql).flatMap (Statement.render names))

/-- The names of the placeholders in two texts, in order of appearance. -/
def namesAround (before after : String) : List String :=
  placeholders (pieces before) ++ placeholders (pieces after)

/-- What becomes of a statement with a name in it: the placeholders are those of the texts around
it, and the name is sent as it is. -/
theorem QuotedName.positional_eq {text before : String} (h : QuotedName text)
    (hbefore : openMark before.toList = none) (after : String) (params : Params) :
    Statement.positional ⟨before ++ text ++ after, params⟩ =
      match (namesAround before after).find? fun name => (params.get? name).isNone with
      | some name => .error (.unboundPlaceholder name)
      | none =>
        .ok ⟨numberedBy (namesAround before after).eraseDups before ++ text ++
            numberedBy (namesAround before after).eraseDups after,
          (namesAround before after).eraseDups.filterMap params.get?⟩ := by
  have hpieces := h.pieces_eq hbefore after
  have hplaceholders : placeholders (pieces before ++ verbatim text.toList ++ pieces after) =
      namesAround before after := by
    rw [placeholders_append, placeholders_append, placeholders_verbatim, List.append_nil]
    rfl
  rw [Statement.positional_eq, Statement.numberedText, Statement.names]
  simp only [hpieces, hplaceholders, List.flatMap_append, flatMap_render_verbatim,
    String.ofList_append, String.ofList_toList]
  rfl

/-- The names of two columns, or of two tables, can be told from their texts: the texts are the same
exactly if all names are the same, which is when the columns are the same. Wherever no quotation is
open, the text of a name is sent as it is. It closes what it opens, and the texts before it and
behind it are read, and their placeholders numbered, as if it was not there. -/
theorem quotedNames_unambiguous :
    (∀ c d : Column,
      (c.sql = d.sql ↔ c.table.schema.text = d.table.schema.text ∧
        c.table.table.text = d.table.table.text ∧ c.ident.text = d.ident.text) ∧
      (c.sql = d.sql ↔ c.isSame d = true)) ∧
    (∀ t u : TableName, t.sql = u.sql ↔ t = u) ∧
    ∀ text before : String, QuotedName text → openMark before.toList = none →
      ScanState.plain.after (before ++ text).toList = .plain ∧
      ∀ (after : String) (params : Params),
        pieces (before ++ text ++ after) =
            pieces before ++ verbatim text.toList ++ pieces after ∧
          Statement.positional ⟨before ++ text ++ after, params⟩ =
            match (namesAround before after).find? fun name => (params.get? name).isNone with
            | some name => .error (.unboundPlaceholder name)
            | none =>
              .ok ⟨numberedBy (namesAround before after).eraseDups before ++ text ++
                  numberedBy (namesAround before after).eraseDups after,
                (namesAround before after).eraseDups.filterMap params.get?⟩ := by
  refine ⟨fun c d => ⟨?_, ?_⟩, fun t u => TableName.sql_inj, fun text before h hbefore =>
    ⟨?_, fun after params => ?_⟩⟩
  · exact ColumnName.sql_inj.trans ColumnName.eq_iff_text
  · exact ColumnName.sql_inj.trans decide_eq_true_iff.symm
  · rw [String.toList_append, ScanState.after_append]
    exact h.after_eq ((ScanState.mark_after ..).trans hbefore)
  · exact ⟨h.pieces_eq hbefore after, h.positional_eq hbefore after params⟩

namespace Reserved

/-- A column whose names begin with a digit or are words of the language. -/
def column : Column where
  name := ⟨⟨⟨"2024", by decide, by decide⟩, ⟨"select", by decide, by decide⟩⟩,
    ⟨"from", by decide, by decide⟩⟩
  type := .text
  primaryKey := false
  unique := false
  notNull := false
  default := none
  foreignKey := none

/-- The column between a colon and a cast, in a statement with placeholders on both sides. -/
theorem unambiguous_reserved :
    QuotedName column.sql ∧ openMark "WHERE :low < ':' AND :".toList = none ∧
      Statement.positional ⟨"WHERE :low < ':' AND :" ++ column.sql ++ "::text = :high",
          .ofList [("low", .integer 1), ("high", .integer 2)]⟩ =
        .ok ⟨"WHERE $1 < ':' AND :\"2024\".\"select\".\"from\"::text = $2",
          [.integer 1, .integer 2]⟩ := by
  have hname : QuotedName column.sql := .column column
  have hopen : openMark "WHERE :low < ':' AND :".toList = none := by decide +kernel
  have hpositional := ((quotedNames_unambiguous.2.2 _ _ hname hopen).2 "::text = :high"
    (.ofList [("low", .integer 1), ("high", .integer 2)])).2
  exact ⟨hname, hopen, hpositional.trans (by decide +kernel)⟩

end Reserved

end TypedTable
