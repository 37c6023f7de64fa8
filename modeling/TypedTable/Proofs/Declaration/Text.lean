import TypedTable.Proofs.Declaration.Reader
/-!
# The statement that makes a table is read back

The statement that makes a table is the text of the table's declaration (`Schema.createTable_eq`),
and every declaration is read back from its text (`Declaration.ofText?_text`): names are in quotes,
so none of them is a word of the statement, and the brackets of a type hide its commas.

So a statement says exactly what its table declares (`Schema.ofText?_createTable`).
-/

namespace TypedTable

/-! ### The text of a declaration -/

/-- A reference to a column. -/
def ColumnDeclaration.referenceText : Option ColumnName → String
  | some target => " REFERENCES " ++ target.table.sql ++ " (" ++ target.column.sql ++ ")"
  | none => ""

/-- The declaration of a column. -/
def ColumnDeclaration.text (c : ColumnDeclaration) : String :=
  c.name.sql ++ " " ++ c.type.name ++ (if c.unique then " UNIQUE" else "") ++
    (if c.notNull then " NOT NULL" else "") ++ referenceText c.reference

/-- An item of a declaration. -/
def DeclarationItem.text : DeclarationItem → String
  | column c => c.text
  | key names => "PRIMARY KEY (" ++ Text.commas (names.map Ident.sql) ++ ")"

/-- The statement that makes a table. -/
def Declaration.text (d : Declaration) : String :=
  "CREATE TABLE IF NOT EXISTS " ++ d.table.sql ++ " (" ++
    Text.commas (d.items.map DeclarationItem.text) ++ ")"

/-- What a column says in the declaration of its table. A key says nothing of its columns by
themselves. -/
def Column.declaration (c : Column) : ColumnDeclaration :=
  ⟨c.ident, c.type, c.unique && !c.primaryKey, c.notNull, c.foreignKey⟩

/-- What a table declares. -/
def Schema.declaration (s : Schema) : Declaration :=
  ⟨s.table, s.columns.map Column.declaration, s.primaryKey.map Column.ident⟩

theorem Schema.hasPrimaryKey_iff (s : Schema) : s.hasPrimaryKey = true ↔ s.primaryKey ≠ [] := by
  simp [hasPrimaryKey, primaryKey]

/-- The statement that makes a table says what the table declares. -/
theorem Schema.createTable_eq (s : Schema) : s.createTable = s.declaration.text := by
  have hitems : s.declaration.items.map DeclarationItem.text =
      s.columns.map Column.definition ++
        if s.hasPrimaryKey then ["PRIMARY KEY (" ++ s.keyList ++ ")"] else [] := by
    have hcolumns : (s.declaration.columns.map DeclarationItem.column).map DeclarationItem.text =
        s.columns.map Column.definition := by
      rw [List.map_map]
      exact List.map_map
    rw [Declaration.items, List.map_append, hcolumns]
    congr 1
    by_cases hkey : s.primaryKey = []
    · have hdeclared : s.declaration.key = [] := congrArg (List.map Column.ident) hkey
      rw [if_pos hdeclared, if_neg fun h => s.hasPrimaryKey_iff.1 h hkey]
      rfl
    · have hdeclared : s.declaration.key ≠ [] := fun h => hkey (List.map_eq_nil_iff.1 h)
      have hlist : Text.commas (s.declaration.key.map Ident.sql) = s.keyList :=
        congrArg Text.commas List.map_map
      rw [if_neg hdeclared, if_pos (s.hasPrimaryKey_iff.2 hkey), ← hlist]
      rfl
  have htext : s.createTable = "CREATE TABLE IF NOT EXISTS " ++ s.table.sql ++ " (" ++
      Text.commas (s.columns.map Column.definition ++
        if s.hasPrimaryKey then ["PRIMARY KEY (" ++ s.keyList ++ ")"] else []) ++ ")" :=
    rfl
  rw [htext, ← hitems]
  rfl

/-! ### Its lexemes -/

section

variable {s s' : String} {ls ls' : List Lexeme}

theorem BeginsLexeme.append (h : BeginsLexeme s) (s' : String) : BeginsLexeme (s ++ s') := by
  obtain ⟨c, rest, hs, hc⟩ := h
  exact ⟨c, rest ++ s'.toList, by rw [String.toList_append, hs, List.cons_append], hc⟩

/-- Whether a text is empty, or has lexemes and ends what stands in front of it. -/
def LexesBehind (s : String) (ls : List Lexeme) : Prop :=
  s = "" ∧ ls = [] ∨ BeginsLexeme s ∧ lexemes s = some ls

theorem LexesBehind.append (h' : LexesBehind s' ls') (h : lexemes s = some ls) :
    lexemes (s ++ s') = some (ls ++ ls') := by
  rcases h' with ⟨rfl, rfl⟩ | ⟨hbegins, h'⟩
  · rw [String.append_empty, List.append_nil]
    exact h
  · exact lexemes_of_run h' (run_append_of_lexemes h hbegins)

theorem lexesBehind_if {b : Bool} (hbegins : BeginsLexeme s) (h : lexemes s = some ls) :
    LexesBehind (if b then s else "") (if b then ls else []) := by
  cases b with
  | true => exact .inr ⟨hbegins, h⟩
  | false => exact .inl ⟨rfl, rfl⟩

end

theorem SqlType.lexemes_name (t : SqlType) : TypedTable.lexemes t.name = some t.lexemes := by
  have hclosing : LexesWhole ")" [.mark ')'] := by decide
  cases t with
  | numeric p =>
    have hfront : LexesWhole "NUMERIC(" [.word "NUMERIC", .mark '('] := by decide
    have hmiddle : LexesWhole ", " [.mark ','] := by decide
    have hdigits := lexesWhole_around hfront (lexemes_naturalText p.digits)
      ⟨',', [' '], rfl, by decide⟩ hmiddle
    exact (lexesWhole_around hdigits (lexemes_naturalText p.scale) beginsLexeme_closing
      hclosing).lexemes_eq
  | varChar l =>
    have hfront : LexesWhole "VARCHAR(" [.word "VARCHAR", .mark '('] := by decide
    exact (lexesWhole_around hfront (lexemes_naturalText l.size) beginsLexeme_closing
      hclosing).lexemes_eq
  | _ => decide

theorem ColumnDeclaration.lexesBehind_reference (reference : Option ColumnName) :
    LexesBehind (referenceText reference) (referenceLexemes reference) := by
  cases reference with
  | none => exact .inl ⟨rfl, rfl⟩
  | some target =>
    have hfront : LexesWhole " REFERENCES " [.word "REFERENCES"] := by decide
    have hopening : LexesWhole " (" [.mark '('] := by decide
    have hclosing : LexesWhole ")" [.mark ')'] := by decide
    have htable := lexesWhole_around hfront (lexemes_table target.table)
      ⟨' ', ['('], rfl, by decide⟩ hopening
    have hall := (lexesWhole_around htable (lexemes_ident target.column) beginsLexeme_closing
      hclosing).lexemes_eq
    have hbegins : BeginsLexeme " REFERENCES " := ⟨' ', "REFERENCES ".toList, rfl, by decide⟩
    refine .inr ⟨(((hbegins.append _).append _).append _).append _, hall.trans ?_⟩
    simp [referenceLexemes]

theorem ColumnDeclaration.lexemes_text (c : ColumnDeclaration) :
    TypedTable.lexemes c.text = some c.lexemes := by
  have hspace : LexesWhole " " [] := by decide
  have htype := (lexesWhole_append (lexemes_ident c.name) ⟨' ', [], rfl, by decide⟩ hspace).append
    c.type.lexemes_name
  have hunique : LexesBehind (if c.unique then " UNIQUE" else "")
      (if c.unique then [.word "UNIQUE"] else []) :=
    lexesBehind_if ⟨' ', "UNIQUE".toList, rfl, by decide⟩ (by decide)
  have hnotNull : LexesBehind (if c.notNull then " NOT NULL" else "")
      (if c.notNull then [.word "NOT", .word "NULL"] else []) :=
    lexesBehind_if ⟨' ', "NOT NULL".toList, rfl, by decide⟩ (by decide)
  have hall := (lexesBehind_reference c.reference).append (hnotNull.append (hunique.append htype))
  refine hall.trans ?_
  simp [lexemes]

/-- Texts in a row have the lexemes of all of them with commas between. -/
theorem lexemes_commas {α : Type} {text : α → String} {write : α → List Lexeme} {as : List α}
    (h : ∀ a ∈ as, lexemes (text a) = some (write a)) :
    lexemes (Text.commas (as.map text)) = some (Lexeme.listed (as.map write)) := by
  induction as with
  | nil => rfl
  | cons a as ih =>
    obtain ⟨ha, has⟩ := List.forall_mem_cons.1 h
    cases as with
    | nil => exact ha
    | cons b as =>
      have hcomma : LexesWhole ", " [.mark ','] := by decide
      have hall := (lexesWhole_append ha ⟨',', [' '], rfl, by decide⟩ hcomma).append (ih has)
      simpa [Text.commas, Text.separated, Lexeme.listed] using hall

theorem DeclarationItem.lexemes_text (item : DeclarationItem) :
    TypedTable.lexemes item.text = some item.lexemes := by
  cases item with
  | column c => exact c.lexemes_text
  | key names =>
    have hfront : LexesWhole "PRIMARY KEY (" [.word "PRIMARY", .word "KEY", .mark '('] := by decide
    have hclosing : LexesWhole ")" [.mark ')'] := by decide
    have hnames : TypedTable.lexemes (Text.commas (names.map Ident.sql)) =
        some (Lexeme.listed (names.map fun name => [.name name.text])) :=
      lexemes_commas fun name _ => lexemes_ident name
    exact (lexesWhole_around hfront hnames beginsLexeme_closing hclosing).lexemes_eq

namespace Declaration

theorem lexemes_text (d : Declaration) : TypedTable.lexemes d.text = some d.lexemes := by
  have hfront : LexesWhole "CREATE TABLE IF NOT EXISTS "
      [.word "CREATE", .word "TABLE", .word "IF", .word "NOT", .word "EXISTS"] := by decide
  have hopening : LexesWhole " (" [.mark '('] := by decide
  have hclosing : LexesWhole ")" [.mark ')'] := by decide
  have htable := lexesWhole_around hfront (lexemes_table d.table) ⟨' ', ['('], rfl, by decide⟩
    hopening
  have hitems : TypedTable.lexemes (Text.commas (d.items.map DeclarationItem.text)) =
      some (Lexeme.listed (d.items.map DeclarationItem.lexemes)) :=
    lexemes_commas fun item _ => item.lexemes_text
  have hall := (lexesWhole_around htable hitems beginsLexeme_closing hclosing).lexemes_eq
  refine hall.trans ?_
  simp [lexemes]

/-- A declaration is read back from its text. -/
theorem ofText?_text (d : Declaration) : ofText? d.text = some d := by
  rw [ofText?, d.lexemes_text, Option.bind_some, d.ofLexemes?_lexemes]

end Declaration

namespace Schema

/-- A table's declaration is read from the statement that makes it. -/
theorem ofText?_createTable (s : Schema) :
    Declaration.ofText? s.createTable = some s.declaration := by
  rw [s.createTable_eq, Declaration.ofText?_text]

/-- The statement that makes a table says what the table declares and nothing else.

* There is a reader that recovers from the statement alone the name of the table, its columns in
  order, each with its name and type, whether it takes no null, whether it is unique by itself and
  the column that it refers to, and the columns of the primary key in order.
* Tables have the same statement exactly if they declare the same. -/
theorem createTable_readable :
    (∃ read : String → Option Declaration, ∀ s : Schema,
      read s.createTable = some
        { table := s.table
          columns := s.columns.map fun c =>
            { name := c.ident
              type := c.type
              unique := c.unique && !c.primaryKey
              notNull := c.notNull
              reference := c.foreignKey }
          key := s.primaryKey.map Column.ident }) ∧
    ∀ s s' : Schema, s.createTable = s'.createTable ↔ s.declaration = s'.declaration := by
  refine ⟨⟨Declaration.ofText?, ofText?_createTable⟩, fun s s' => ⟨fun h => ?_, fun h => ?_⟩⟩
  · have hread := s.ofText?_createTable
    rw [h, s'.ofText?_createTable] at hread
    exact (Option.some.inj hread).symm
  · rw [s.createTable_eq, s'.createTable_eq, h]

end Schema

end TypedTable
