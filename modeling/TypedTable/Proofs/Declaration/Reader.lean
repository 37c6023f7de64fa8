import TypedTable.Proofs.Splice.Lexeme
import TypedTable.Schema
/-!
# Reading the declaration of a table

A `Declaration` is what a statement that makes a table says of it: the table, its columns with their
types and constraints, and its primary key. `Declaration.ofText?` reads it from the lexemes of the
statement, item by item: each reader takes what belongs to it from the front and leaves the rest.

`Declaration.lexemes` writes a declaration as lexemes, and every declaration is read back from them
(`Declaration.ofLexemes?_lexemes`). An item ends in front of a comma or a closing bracket, which is
why a constraint that is left out is not missed.
-/

namespace TypedTable

/-- What the declaration of a column says. -/
structure ColumnDeclaration where
  name : Ident
  type : SqlType
  /-- Whether the column is declared unique by itself. -/
  unique : Bool
  notNull : Bool
  /-- The column that is referred to. -/
  reference : Option ColumnName
deriving DecidableEq

/-- What the declaration of a table says. -/
structure Declaration where
  table : TableName
  columns : List ColumnDeclaration
  /-- The columns of the primary key. There are none if no key is declared. -/
  key : List Ident
deriving DecidableEq

/-- What stands between two commas of a declaration. -/
inductive DeclarationItem
  | column (c : ColumnDeclaration)
  | key (names : List Ident)
deriving DecidableEq

/-- The columns with the key behind them, if there is one. -/
def Declaration.items (d : Declaration) : List DeclarationItem :=
  d.columns.map .column ++ if d.key = [] then [] else [.key d.key]

/-! ### Reading -/

/-- Reads a name. -/
def Ident.read? : List Lexeme → Option (Ident × List Lexeme)
  | .name text :: ls => (Ident.ofText text).toOption.map (·, ls)
  | _ => none

/-- Reads the full name of a table. -/
def TableName.read? (ls : List Lexeme) : Option (TableName × List Lexeme) := do
  let (schema, ls) ← Ident.read? ls
  let ls ← ls.dropPrefix? [.mark '.']
  let (table, ls) ← Ident.read? ls
  some (⟨schema, table⟩, ls)

/-- Reads a type with its parameters. -/
def SqlType.read? : List Lexeme → Option (SqlType × List Lexeme)
  | .word "BOOLEAN" :: ls => some (boolean, ls)
  | .word "SMALLINT" :: ls => some (smallInt, ls)
  | .word "INTEGER" :: ls => some (integer, ls)
  | .word "SMALLSERIAL" :: ls => some (smallSerial, ls)
  | .word "SERIAL" :: ls => some (serial, ls)
  | .word "NUMERIC" :: .mark '(' :: .number digits :: .mark ',' :: .number scale :: .mark ')' ::
      ls => do
    let digits ← Text.run? digits.toList
    let scale ← Text.run? scale.toList
    (ofPrecision digits scale).toOption.map (·, ls)
  | .word "DATE" :: ls => some (date, ls)
  | .word "TIMESTAMP" :: .word "WITH" :: .word "TIME" :: .word "ZONE" :: ls =>
    some (timestampTz, ls)
  | .word "VARCHAR" :: .mark '(' :: .number size :: .mark ')' :: ls => do
    let size ← Text.run? size.toList
    (ofLength size).toOption.map (·, ls)
  | .word "TEXT" :: ls => some (text, ls)
  | _ => none

/-- Reads words that may be left out, and says whether they were there. -/
def readWords (words ls : List Lexeme) : Bool × List Lexeme :=
  match ls.dropPrefix? words with
  | some ls => (true, ls)
  | none => (false, ls)

/-- Reads the column that is referred to, if there is one. -/
def ColumnDeclaration.readReference? (ls : List Lexeme) :
    Option (Option ColumnName × List Lexeme) :=
  match ls.dropPrefix? [.word "REFERENCES"] with
  | none => some (none, ls)
  | some ls => do
    let (table, ls) ← TableName.read? ls
    let ls ← ls.dropPrefix? [.mark '(']
    let (column, ls) ← Ident.read? ls
    let ls ← ls.dropPrefix? [.mark ')']
    some (some ⟨table, column⟩, ls)

/-- Reads the declaration of a column. -/
def ColumnDeclaration.read? (ls : List Lexeme) : Option (ColumnDeclaration × List Lexeme) := do
  let (name, ls) ← Ident.read? ls
  let (type, ls) ← SqlType.read? ls
  let (unique, ls) := readWords [.word "UNIQUE"] ls
  let (notNull, ls) := readWords [.word "NOT", .word "NULL"] ls
  let (reference, ls) ← readReference? ls
  some (⟨name, type, unique, notNull, reference⟩, ls)

/-- Reads members with commas between them; `fuel` bounds their number. -/
def readList? {α : Type} (read? : List Lexeme → Option (α × List Lexeme)) :
    Nat → List Lexeme → Option (List α × List Lexeme)
  | 0, _ => none
  | fuel + 1, ls => do
    match ← read? ls with
    | (a, .mark ',' :: ls) => (readList? read? fuel ls).map fun (as, ls) => (a :: as, ls)
    | (a, ls) => some ([a], ls)

/-- Reads names with commas between them and the bracket that closes them. -/
def readNames? (ls : List Lexeme) : Option (List Ident × List Lexeme) := do
  let (names, ls) ← readList? Ident.read? ls.length ls
  let ls ← ls.dropPrefix? [.mark ')']
  some (names, ls)

/-- Reads one item. -/
def DeclarationItem.read? (ls : List Lexeme) : Option (DeclarationItem × List Lexeme) :=
  match ls.dropPrefix? [.word "PRIMARY", .word "KEY", .mark '('] with
  | some ls => (readNames? ls).map fun (names, ls) => (key names, ls)
  | none => (ColumnDeclaration.read? ls).map fun (c, ls) => (column c, ls)

namespace Declaration

/-- The declaration with these items, if at most one of them is a key. -/
def ofItems? (table : TableName) (items : List DeclarationItem) : Option Declaration :=
  let columns := items.filterMap fun | .column c => some c | .key _ => none
  match items.filterMap fun | .key names => some names | .column _ => none with
  | [] => some ⟨table, columns, []⟩
  | [names] => some ⟨table, columns, names⟩
  | _ => none

/-- Reads the items up to the bracket behind them, of which there may be none. -/
def readItems? (ls : List Lexeme) : Option (List DeclarationItem × List Lexeme) :=
  if ls.head? = some (.mark ')') then some ([], ls)
  else readList? DeclarationItem.read? ls.length ls

/-- Reads a declaration to its end. -/
def ofLexemes? (ls : List Lexeme) : Option Declaration := do
  let ls ← ls.dropPrefix?
    [.word "CREATE", .word "TABLE", .word "IF", .word "NOT", .word "EXISTS"]
  let (table, ls) ← TableName.read? ls
  let ls ← ls.dropPrefix? [.mark '(']
  let (items, ls) ← readItems? ls
  if ls = [.mark ')'] then ofItems? table items else none

/-- What a statement that makes a table says. -/
def ofText? (text : String) : Option Declaration := (lexemes text).bind ofLexemes?

end Declaration

/-! ### Writing -/

/-- Members with a comma between any two of them. -/
def Lexeme.listed : List (List Lexeme) → List Lexeme
  | [] => []
  | [ls] => ls
  | ls :: rest => ls ++ .mark ',' :: listed rest

/-- The lexemes of a type. -/
def SqlType.lexemes : SqlType → List Lexeme
  | boolean => [.word "BOOLEAN"]
  | smallInt => [.word "SMALLINT"]
  | integer => [.word "INTEGER"]
  | smallSerial => [.word "SMALLSERIAL"]
  | serial => [.word "SERIAL"]
  | numeric p =>
    [.word "NUMERIC", .mark '(', .number (Text.naturalText p.digits), .mark ',',
      .number (Text.naturalText p.scale), .mark ')']
  | date => [.word "DATE"]
  | timestampTz => [.word "TIMESTAMP", .word "WITH", .word "TIME", .word "ZONE"]
  | varChar l => [.word "VARCHAR", .mark '(', .number (Text.naturalText l.size), .mark ')']
  | text => [.word "TEXT"]

/-- The lexemes of a reference to a column. -/
def ColumnDeclaration.referenceLexemes : Option ColumnName → List Lexeme
  | none => []
  | some target =>
    .word "REFERENCES" :: target.table.lexemes ++
      [.mark '(', .name target.column.text, .mark ')']

/-- The lexemes of a column's declaration. -/
def ColumnDeclaration.lexemes (c : ColumnDeclaration) : List Lexeme :=
  .name c.name.text :: c.type.lexemes ++
    ((if c.unique then [.word "UNIQUE"] else []) ++
      ((if c.notNull then [.word "NOT", .word "NULL"] else []) ++ referenceLexemes c.reference))

/-- The lexemes of an item. -/
def DeclarationItem.lexemes : DeclarationItem → List Lexeme
  | column c => c.lexemes
  | key names =>
    [.word "PRIMARY", .word "KEY", .mark '('] ++
      Lexeme.listed (names.map fun name => [.name name.text]) ++ [.mark ')']

/-- The lexemes of a declaration. -/
def Declaration.lexemes (d : Declaration) : List Lexeme :=
  [.word "CREATE", .word "TABLE", .word "IF", .word "NOT", .word "EXISTS"] ++ d.table.lexemes ++
    .mark '(' :: Lexeme.listed (d.items.map DeclarationItem.lexemes) ++ [.mark ')']

/-! ### What is written is read -/

variable {ls rest : List Lexeme}

theorem dropPrefix?_append (words rest : List Lexeme) :
    (words ++ rest).dropPrefix? words = some rest :=
  List.dropPrefix?_append_of_beq rest (beq_self_eq_true words)

theorem Ident.ofText_text (i : Ident) : Ident.ofText i.text = .ok i := by
  have hfind : i.text.toList.find? (!isNameCharacter ·) = none := by
    rw [List.find?_eq_none]
    intro c hc
    simp [List.all_eq_true.1 i.legal c hc]
  unfold ofText
  rw [dif_neg i.nonempty]
  split
  · next h => exact (nomatch hfind.symm.trans h)
  · rfl

theorem Ident.read?_cons (i : Ident) (rest : List Lexeme) :
    Ident.read? (.name i.text :: rest) = some (i, rest) := by
  rw [read?, ofText_text]
  rfl

theorem TableName.read?_append (t : TableName) (rest : List Lexeme) :
    TableName.read? (t.lexemes ++ rest) = some (t, rest) := by
  show (Ident.read? (.name t.schema.text :: .mark '.' :: .name t.table.text :: rest)).bind _ = _
  rw [Ident.read?_cons, Option.bind_some]
  show (Ident.read? (.name t.table.text :: rest)).bind _ = _
  rw [Ident.read?_cons]
  rfl

theorem SqlType.read?_append (t : SqlType) (rest : List Lexeme) :
    SqlType.read? (t.lexemes ++ rest) = some (t, rest) := by
  cases t with
  | numeric p =>
    have htype : ofPrecision p.digits p.scale = .ok (numeric p) := by
      have hpos := p.digits_mem
      have hscale := p.scale_le
      rw [ofPrecision, dif_neg (by omega), dif_neg (by omega), dif_neg (by omega)]
    show (Text.run? _).bind (fun digits => (Text.run? _).bind _) = _
    rw [Text.run?_naturalText, Text.run?_naturalText, Option.bind_some, Option.bind_some, htype]
    rfl
  | varChar l =>
    have htype : ofLength l.size = .ok (varChar l) := dif_neg (by have := l.size_pos; omega)
    show (Text.run? _).bind _ = _
    rw [Text.run?_naturalText, Option.bind_some, htype]
    rfl
  | _ => rfl

/-- Names that are left out are not read where an item ends. -/
theorem ColumnDeclaration.readReference?_append (reference : Option ColumnName) (c : Char)
    (rest : List Lexeme) :
    readReference? (referenceLexemes reference ++ .mark c :: rest) =
      some (reference, .mark c :: rest) := by
  cases reference with
  | none => rfl
  | some target =>
    have hlexemes : referenceLexemes (some target) ++ .mark c :: rest =
        [.word "REFERENCES"] ++ (target.table.lexemes ++
          ([.mark '('] ++ (.name target.column.text :: ([.mark ')'] ++ .mark c :: rest)))) := by
      simp [referenceLexemes]
    rw [hlexemes, readReference?, dropPrefix?_append]
    simp only [TableName.read?_append, dropPrefix?_append, Ident.read?_cons, bind,
      Option.bind_some]

/-- A column is read up to the end of its item. -/
theorem ColumnDeclaration.read?_append (d : ColumnDeclaration) (c : Char) (rest : List Lexeme) :
    read? (d.lexemes ++ .mark c :: rest) = some (d, .mark c :: rest) := by
  obtain ⟨name, type, unique, notNull, reference⟩ := d
  -- Whatever constraints are left out, the next lexeme is none of their words.
  have hunique : ∀ ls, readWords [.word "UNIQUE"] ((if unique then [.word "UNIQUE"] else []) ++
      ((if notNull then [.word "NOT", .word "NULL"] else []) ++
        (referenceLexemes reference ++ .mark c :: ls))) =
      (unique, (if notNull then [.word "NOT", .word "NULL"] else []) ++
        (referenceLexemes reference ++ .mark c :: ls)) := by
    intro ls
    cases unique <;> cases notNull <;> cases reference <;> rfl
  have hnotNull : ∀ ls, readWords [.word "NOT", .word "NULL"]
      ((if notNull then [.word "NOT", .word "NULL"] else []) ++
        (referenceLexemes reference ++ .mark c :: ls)) =
      (notNull, referenceLexemes reference ++ .mark c :: ls) := by
    intro ls
    cases notNull <;> cases reference <;> rfl
  simp only [read?, lexemes, List.cons_append, List.append_assoc, Ident.read?_cons,
    SqlType.read?_append, hunique, hnotNull, readReference?_append, bind, Option.bind_some]

/-- Members are read up to what stands behind them, if each of them is read up to a comma and up to
that. -/
theorem readList?_append {α : Type} {read? : List Lexeme → Option (α × List Lexeme)}
    {write : α → List Lexeme} {as : List α} {rest : List Lexeme}
    (h : ∀ a ∈ as, ∀ ls, ls = rest ∨ (∃ tail, ls = .mark ',' :: tail) →
      read? (write a ++ ls) = some (a, ls))
    (hne : as ≠ []) (hrest : rest.head? ≠ some (.mark ',')) {fuel : Nat} (hfuel : as.length ≤ fuel) :
    readList? read? fuel (Lexeme.listed (as.map write) ++ rest) = some (as, rest) := by
  induction as generalizing fuel with
  | nil => exact absurd rfl hne
  | cons a as ih =>
    obtain ⟨ha, has⟩ := List.forall_mem_cons.1 h
    cases fuel with
    | zero => exact absurd hfuel (by simp)
    | succ fuel =>
      cases as with
      | nil =>
        have hlast : ∀ ls, rest ≠ .mark ',' :: ls := by
          rintro ls rfl
          exact hrest rfl
        show (read? (write a ++ rest)).bind _ = _
        rw [ha rest (.inl rfl), Option.bind_some]
        split
        · next heq => exact absurd (Prod.mk.inj heq).2 (hlast _)
        · next heq =>
          cases heq
          rfl
      | cons b as =>
        have hlisted : Lexeme.listed ((a :: b :: as).map write) ++ rest =
            write a ++ .mark ',' :: (Lexeme.listed ((b :: as).map write) ++ rest) := by
          simp [Lexeme.listed]
        rw [hlisted, readList?, ha _ (.inr ⟨_, rfl⟩)]
        show (readList? read? fuel _).map _ = _
        rw [ih has (List.cons_ne_nil _ _) (by simpa using hfuel)]
        rfl

/-- There are at least as many lexemes as members. -/
theorem length_le_listed {α : Type} (write : α → List Lexeme) (h : ∀ a, write a ≠ [])
    (as : List α) : as.length ≤ (Lexeme.listed (as.map write)).length := by
  induction as with
  | nil => exact Nat.le_refl 0
  | cons a as ih =>
    have hpos : 0 < (write a).length := List.length_pos_iff.2 (h a)
    cases as with
    | nil => exact hpos
    | cons b as =>
      simp only [List.map_cons, Lexeme.listed, List.length_append, List.length_cons] at ih ⊢
      omega

/-- Names are read with the bracket behind them. -/
theorem readNames?_append {names : List Ident} (hne : names ≠ []) (rest : List Lexeme) :
    readNames? (Lexeme.listed (names.map fun name => [.name name.text]) ++ .mark ')' :: rest) =
      some (names, rest) := by
  have hlength := length_le_listed (fun name : Ident => [.name name.text])
    (fun _ => List.cons_ne_nil _ _) names
  have hname : ∀ name ∈ names, ∀ ls, ls = .mark ')' :: rest ∨ (∃ tail, ls = .mark ',' :: tail) →
      Ident.read? ([.name name.text] ++ ls) = some (name, ls) :=
    fun name _ ls _ => Ident.read?_cons name ls
  rw [readNames?, readList?_append hname hne (fun h => (nomatch h))
    (by rw [List.length_append]; omega)]
  show (([Lexeme.mark ')'] ++ rest).dropPrefix? [.mark ')']).bind _ = _
  rw [dropPrefix?_append]
  rfl

theorem DeclarationItem.lexemes_ne_nil (item : DeclarationItem) : item.lexemes ≠ [] := by
  cases item <;> exact List.cons_ne_nil _ _

/-- An item is read up to its end. A key has at least one column. -/
theorem DeclarationItem.read?_append {item : DeclarationItem} (hitem : item ≠ .key []) (c : Char)
    (rest : List Lexeme) :
    read? (item.lexemes ++ .mark c :: rest) = some (item, .mark c :: rest) := by
  cases item with
  | column d =>
    have hdrop : (d.lexemes ++ .mark c :: rest).dropPrefix?
        [.word "PRIMARY", .word "KEY", .mark '('] = none := rfl
    rw [read?, lexemes, hdrop]
    show (ColumnDeclaration.read? _).map _ = _
    rw [ColumnDeclaration.read?_append]
    rfl
  | key names =>
    have hne : names ≠ [] := fun h => hitem (congrArg key h)
    have hlexemes : (key names).lexemes ++ .mark c :: rest =
        [.word "PRIMARY", .word "KEY", .mark '('] ++ (Lexeme.listed (names.map fun name =>
          [.name name.text]) ++ .mark ')' :: .mark c :: rest) := by
      simp [lexemes]
    rw [hlexemes, read?, dropPrefix?_append]
    show (readNames? _).map _ = _
    rw [readNames?_append hne]
    rfl

namespace Declaration

theorem ofItems?_items (d : Declaration) : ofItems? d.table d.items = some d := by
  obtain ⟨table, columns, key⟩ := d
  by_cases hkey : key = [] <;> simp [ofItems?, items, hkey, List.filterMap_map]

theorem forall_mem_items (d : Declaration) : ∀ item ∈ d.items, item ≠ .key [] := by
  intro item hitem
  rcases List.mem_append.1 hitem with hcolumn | hkey
  · obtain ⟨c, -, rfl⟩ := List.mem_map.1 hcolumn
    exact fun h => (nomatch h)
  · split at hkey
    · exact absurd hkey List.not_mem_nil
    · next hne =>
      rw [List.mem_singleton] at hkey
      rintro rfl
      exact hne (DeclarationItem.key.inj hkey).symm

theorem readItems?_append (d : Declaration) :
    readItems? (Lexeme.listed (d.items.map DeclarationItem.lexemes) ++ [.mark ')']) =
      some (d.items, [.mark ')']) := by
  have hread : ∀ item ∈ d.items, ∀ ls : List Lexeme,
      ls = [.mark ')'] ∨ (∃ tail, ls = .mark ',' :: tail) →
        DeclarationItem.read? (item.lexemes ++ ls) = some (item, ls) := by
    rintro item hitem ls (rfl | ⟨tail, rfl⟩) <;>
      exact DeclarationItem.read?_append (d.forall_mem_items item hitem) _ _
  cases hitems : d.items with
  | nil => rfl
  | cons item items =>
    have hlength := length_le_listed DeclarationItem.lexemes DeclarationItem.lexemes_ne_nil
      (item :: items)
    have hhead : (Lexeme.listed ((item :: items).map DeclarationItem.lexemes) ++
        [Lexeme.mark ')']).head? ≠ some (.mark ')') := by
      cases item <;> cases items <;> exact fun h => (nomatch h)
    rw [hitems] at hread
    rw [readItems?, if_neg hhead]
    exact readList?_append hread (List.cons_ne_nil _ _) (fun h => (nomatch h))
      (by rw [List.length_append]; omega)

/-- A declaration is read back from its lexemes. -/
theorem ofLexemes?_lexemes (d : Declaration) : ofLexemes? d.lexemes = some d := by
  have hlexemes : d.lexemes = [.word "CREATE", .word "TABLE", .word "IF", .word "NOT",
      .word "EXISTS"] ++ (d.table.lexemes ++ ([.mark '('] ++
        (Lexeme.listed (d.items.map DeclarationItem.lexemes) ++ [.mark ')']))) := by
    simp [lexemes]
  rw [hlexemes, ofLexemes?]
  simp only [dropPrefix?_append, TableName.read?_append, bind, Option.bind_some,
    readItems?_append]
  exact d.ofItems?_items

end Declaration

end TypedTable
