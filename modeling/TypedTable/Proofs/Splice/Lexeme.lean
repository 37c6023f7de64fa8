import TypedTable.Proofs.Reader.Token
/-!
# Lexemes of SQL

`lexemes` cuts any SQL text into lexemes, as a server does: words, numbers, names in double quotes,
texts in single quotes or between tags of dollar signs, placeholders, operators, and single marks
such as brackets. Comments fall out, and block comments may stand in each other. A text that ends
inside quotes or in a comment has no lexemes, since it takes in what is put behind it.

A text that has lexemes keeps them if something is put behind it that begins apart
(`run_append_of_lexemes`). The lexemes of names, placeholders and numbers are given at the end.
-/

namespace TypedTable

/-- A piece of SQL that means something by itself. -/
inductive Lexeme
  /-- A word outside quotes, in capital letters. -/
  | word (text : String)
  | number (text : String)
  /-- A name in double quotes. -/
  | name (text : String)
  /-- A text in quotes or between tags. -/
  | literal (text : String)
  | placeholder (name : String)
  | operator (text : String)
  /-- A character by itself. -/
  | mark (c : Char)
deriving DecidableEq

/-- Whether a character only stands between lexemes. -/
def isSpace (c : Char) : Bool := c.isWhitespace || c == '\x0b' || c == '\x0c'

/-- Whether a word can go on with this character. -/
def isWordCharacter (c : Char) : Bool := isNameCharacter c || c == '$' || 128 ≤ c.toNat

/-- Whether a character makes every operator a single one. Without any, an operator does not end in
a sign. -/
def isBinding (c : Char) : Bool := "~!@#%^&|?".toList.contains c

/-- Whether a character is a sign of a number. -/
def isSign (c : Char) : Bool := c == '+' || c == '-'

/-- The operators that characters in a row are. Signs at the end are operators of their own. -/
def Lexeme.operators : List Char → List Lexeme
  | [] => []
  | c :: rest =>
    if (c :: rest).any isBinding then [.operator (String.ofList (c :: rest))]
    else
      let body := (rest.reverse.dropWhile isSign).reverse
      .operator (String.ofList (c :: body)) ::
        (rest.drop body.length).map fun sign => .operator (String.singleton sign)

/-- The kinds of quotes. -/
inductive Quotes
  | name
  | literal
  /-- In which a backslash takes the next character as it is. -/
  | escape
deriving DecidableEq

namespace Quotes

/-- The character that closes the quotes. -/
def mark : Quotes → Char
  | name => '"'
  | literal | escape => '\''

/-- The lexeme that stands in the quotes. -/
def lexeme : Quotes → String → Lexeme
  | name => .name
  | literal | escape => .literal

end Quotes

/-- What the characters read so far say about the next one. -/
inductive Cursor
  | between
  | word (characters : List Char)
  | number (characters : List Char)
  | placeholder (name : List Char)
  | operator (characters : List Char)
  | quoted (q : Quotes) (taken : List Char)
  /-- Behind a backslash. -/
  | escaped (taken : List Char)
  /-- Behind a mark inside quotes, which closes them or is the first of two that stand for one. -/
  | closed (q : Quotes) (taken : List Char)
  /-- In a comment up to the end of the line. -/
  | line
  /-- In a comment with others around it, behind this character. -/
  | block (depth : Nat) (last : Char)
  /-- In a tag, behind its first dollar sign. -/
  | tag (name : List Char)
  /-- Behind a tag, up to the next one with the same name. -/
  | tagged (name taken : List Char)
  /-- Behind a dollar sign that begins nothing. -/
  | unread
deriving DecidableEq

namespace Cursor

/-- Reads the first character of a lexeme. -/
def first (c : Char) : Cursor × List Lexeme :=
  if isSpace c then (between, [])
  else if c = '"' then (quoted .name [], [])
  else if c = '\'' then (quoted .literal [], [])
  else if c = ':' then (placeholder [], [])
  else if c = '$' then (tag [], [])
  else if c.isDigit then (number [c], [])
  else if isWordCharacter c then (word [c], [])
  else if isOperatorCharacter c then (operator [c], [])
  else (between, [.mark c])

/-- The lexemes that were begun. -/
def finish : Cursor → List Lexeme
  | word characters => [.word (String.ofList (characters.map Char.toUpper))]
  | number characters => [.number (String.ofList characters)]
  | placeholder [] => [.mark ':']
  | placeholder name => [.placeholder (String.ofList name)]
  | operator characters => Lexeme.operators characters
  | closed q taken => [q.lexeme (String.ofList taken)]
  | between | quoted _ _ | escaped _ | line | block _ _ | tag _ | tagged _ _ | unread => []

/-- Reads a character that does not belong to what was begun. -/
def leave (s : Cursor) (c : Char) : Cursor × List Lexeme := ((first c).1, s.finish ++ (first c).2)

/-- Reads one character and gives the lexemes that are complete with it. -/
def step (s : Cursor) (c : Char) : Cursor × List Lexeme :=
  match s with
  | between => first c
  | word characters =>
    if isWordCharacter c then (word (characters ++ [c]), [])
    else if c = '\'' ∧ characters.map Char.toUpper = ['E'] then (quoted .escape [], s.finish)
    else s.leave c
  | number characters =>
    if isNameCharacter c then (number (characters ++ [c]), []) else s.leave c
  | placeholder name =>
    if isNameCharacter c then (placeholder (name ++ [c]), []) else s.leave c
  | operator characters =>
    if isOperatorCharacter c then
      -- Two characters that begin a comment are no part of the operator in front of them.
      if c = '-' ∧ characters.getLast? = some '-' then
        (line, Lexeme.operators characters.dropLast)
      else if c = '*' ∧ characters.getLast? = some '/' then
        (block 0 ' ', Lexeme.operators characters.dropLast)
      else (operator (characters ++ [c]), [])
    else s.leave c
  | quoted q taken =>
    if c = q.mark then (closed q taken, [])
    else if q = .escape ∧ c = '\\' then (escaped taken, [])
    else (quoted q (taken ++ [c]), [])
  | escaped taken => (quoted .escape (taken ++ [c]), [])
  | closed q taken => if c = q.mark then (quoted q (taken ++ [c]), []) else s.leave c
  | line => (if c = '\n' ∨ c = '\r' then between else line, [])
  | block depth last =>
    if last = '/' ∧ c = '*' then (block (depth + 1) ' ', [])
    else if last = '*' ∧ c = '/' then (if depth = 0 then between else block (depth - 1) ' ', [])
    else (block depth c, [])
  | tag name =>
    if c = '$' then (tagged name [], [])
    else if name = [] ∧ c.isDigit then (placeholder [c], [])
    else (if isWordCharacter c then tag (name ++ [c]) else unread, [])
  | tagged name taken =>
    let closing := '$' :: (name ++ ['$'])
    if closing.isSuffixOf (taken ++ [c]) then
      (between, [.literal (String.ofList (taken.take (taken.length + 1 - closing.length)))])
    else (tagged name (taken ++ [c]), [])
  | unread => (unread, [])

/-- Reads characters one after the other. -/
def run : Cursor → List Char → Cursor × List Lexeme
  | s, [] => (s, [])
  | s, c :: rest => ((run (s.step c).1 rest).1, (s.step c).2 ++ (run (s.step c).1 rest).2)

theorem run_append (s : Cursor) (cs ds : List Char) :
    s.run (cs ++ ds) = (((s.run cs).1.run ds).1, (s.run cs).2 ++ ((s.run cs).1.run ds).2) := by
  induction cs generalizing s with
  | nil => rfl
  | cons c cs ih => rw [List.cons_append, run, ih, run, List.append_assoc]

/-- Whether no quotes and no comment have been left open. -/
def isOutside : Cursor → Bool
  | between | word _ | number _ | placeholder _ | operator _ | closed _ _ => true
  | quoted _ _ | escaped _ | line | block _ _ | tag _ | tagged _ _ | unread => false

end Cursor

/-- The lexemes of a text. -/
def lexemes (text : String) : Option (List Lexeme) :=
  let (s, ls) := Cursor.between.run text.toList
  if s.isOutside then some (ls ++ s.finish) else none

/-- Quotes, tags and comments hide words, and signs do not belong to operators. -/
example : lexemes "a=-$1 /* or /* or */ */ AND E'\\' or' <> $b$ or $$b$.\"or\" -- or\n" =
    some [.word "A", .operator "=", .operator "-", .placeholder "1", .word "AND", .word "E",
      .literal "' or", .operator "<>", .literal " or $", .mark '.', .name "or"] := by
  decide

/-! ### Texts behind each other -/

/-- Whether no lexeme goes on with this character, except inside quotes. -/
def isApart (c : Char) : Bool :=
  !isWordCharacter c && !isOperatorCharacter c && c != '"' && c != '\''

/-- Whether a text begins with a character that no lexeme goes on with. -/
def BeginsLexeme (s : String) : Prop := ∃ c rest, s.toList = c :: rest ∧ isApart c = true

/-- In front of a character that stands apart, a lexeme is complete. -/
theorem Cursor.step_apart {s : Cursor} {c : Char} (hs : s.isOutside = true)
    (hc : isApart c = true) : s.step c = s.leave c := by
  simp only [isApart, Bool.and_eq_true, Bool.not_eq_true', bne_iff_ne] at hc
  obtain ⟨⟨⟨hword, hoperator⟩, hdouble⟩, hsingle⟩ := hc
  have hname : isNameCharacter c = false := by
    simp only [isWordCharacter, Bool.or_eq_false_iff] at hword
    exact hword.1.1
  cases s with
  | between => rfl
  | word characters => simp [step, hword, hsingle]
  | number characters => simp [step, hname]
  | placeholder name => simp [step, hname]
  | operator characters => simp [step, hoperator]
  | closed q taken => cases q <;> simp [step, Quotes.mark, hsingle, hdouble]
  | quoted | escaped | line | block | tag | tagged | unread => exact (nomatch hs)

theorem lexemes_eq_some {s : String} {ls : List Lexeme} : lexemes s = some ls ↔
    (Cursor.between.run s.toList).1.isOutside = true ∧
      (Cursor.between.run s.toList).2 ++ (Cursor.between.run s.toList).1.finish = ls := by
  show (if _ then some _ else none) = some ls ↔ _
  split
  · next h => exact ⟨fun heq => ⟨h, Option.some.inj heq⟩, fun heq => congrArg some heq.2⟩
  · next h => exact ⟨fun heq => (nomatch heq), fun heq => absurd heq.1 h⟩

/-- A text with lexemes, all of which are complete. -/
def LexesWhole (s : String) (ls : List Lexeme) : Prop :=
  Cursor.between.run s.toList = (.between, ls)

instance (s : String) (ls : List Lexeme) : Decidable (LexesWhole s ls) :=
  inferInstanceAs (Decidable (_ = _))

section

variable {s s' : String} {ls ls' : List Lexeme}

/-- What is put behind a text in a way that ends its last lexeme is read by itself. -/
theorem run_append_of_lexemes (h : lexemes s = some ls) (hs' : BeginsLexeme s') :
    Cursor.between.run (s ++ s').toList =
      ((Cursor.between.run s'.toList).1, ls ++ (Cursor.between.run s'.toList).2) := by
  obtain ⟨houtside, rfl⟩ := lexemes_eq_some.1 h
  obtain ⟨c, rest, hs', hc⟩ := hs'
  have hstep := Cursor.step_apart houtside hc
  have hstart : Cursor.between.step c = Cursor.first c := rfl
  rw [String.toList_append, Cursor.run_append, hs', Cursor.run, Cursor.run, hstep, hstart,
    Cursor.leave]
  simp only [List.append_assoc]

theorem lexemes_of_run (h' : lexemes s' = some ls') {text : String}
    (hrun : Cursor.between.run text.toList =
      ((Cursor.between.run s'.toList).1, ls ++ (Cursor.between.run s'.toList).2)) :
    lexemes text = some (ls ++ ls') := by
  obtain ⟨houtside, rfl⟩ := lexemes_eq_some.1 h'
  refine lexemes_eq_some.2 ?_
  rw [hrun]
  exact ⟨houtside, List.append_assoc ..⟩

theorem LexesWhole.lexemes_eq (h : LexesWhole s ls) : lexemes s = some ls := by
  unfold LexesWhole at h
  refine lexemes_eq_some.2 ?_
  rw [h]
  exact ⟨rfl, List.append_nil ls⟩

theorem lexesWhole_append (h : lexemes s = some ls) (hs' : BeginsLexeme s')
    (h' : LexesWhole s' ls') : LexesWhole (s ++ s') (ls ++ ls') := by
  unfold LexesWhole at h' ⊢
  rw [run_append_of_lexemes h hs', h']

theorem LexesWhole.append_whole (h : LexesWhole s ls) (h' : LexesWhole s' ls') :
    LexesWhole (s ++ s') (ls ++ ls') := by
  unfold LexesWhole at h h' ⊢
  rw [String.toList_append, Cursor.run_append, h, h']

theorem LexesWhole.append (h : LexesWhole s ls) (h' : lexemes s' = some ls') :
    lexemes (s ++ s') = some (ls ++ ls') := by
  unfold LexesWhole at h
  refine lexemes_of_run h' ?_
  rw [String.toList_append, Cursor.run_append, h]

theorem lexesWhole_around {front back : String} {fs bs : List Lexeme} (hfront : LexesWhole front fs)
    (h : lexemes s = some ls) (hbegins : BeginsLexeme back) (hback : LexesWhole back bs) :
    LexesWhole (front ++ s ++ back) (fs ++ ls ++ bs) :=
  lexesWhole_append (hfront.append h) hbegins hback

end

/-! ### Names, placeholders and numbers -/

/-- Inside quotes everything is taken up to their mark. -/
theorem Cursor.run_quoted_name {cs : List Char} (h : '"' ∉ cs) (taken : List Char) :
    (quoted .name taken).run cs = (quoted .name (taken ++ cs), []) := by
  induction cs generalizing taken with
  | nil => rw [List.append_nil, run]
  | cons c cs ih =>
    obtain ⟨hne, hcs⟩ : '"' ≠ c ∧ '"' ∉ cs := by simpa using h
    have hstep : (quoted .name taken).step c = (quoted .name (taken ++ [c]), []) := by
      simp [step, Quotes.mark, Ne.symm hne]
    rw [run, hstep, ih hcs]
    simp

theorem Cursor.run_placeholder_name {cs : List Char} (h : ∀ c ∈ cs, isNameCharacter c = true)
    (taken : List Char) : (placeholder taken).run cs = (placeholder (taken ++ cs), []) := by
  induction cs generalizing taken with
  | nil => rw [List.append_nil, run]
  | cons c cs ih =>
    obtain ⟨hc, hcs⟩ := List.forall_mem_cons.1 h
    have hstep : (placeholder taken).step c = (placeholder (taken ++ [c]), []) := if_pos hc
    rw [run, hstep, ih hcs]
    simp

theorem Cursor.run_number {cs : List Char} (h : ∀ c ∈ cs, isNameCharacter c = true)
    (taken : List Char) : (number taken).run cs = (number (taken ++ cs), []) := by
  induction cs generalizing taken with
  | nil => rw [List.append_nil, run]
  | cons c cs ih =>
    obtain ⟨hc, hcs⟩ := List.forall_mem_cons.1 h
    have hstep : (number taken).step c = (number (taken ++ [c]), []) := if_pos hc
    rw [run, hstep, ih hcs]
    simp

theorem lexemes_ident (i : Ident) : lexemes i.sql = some [.name i.text] := by
  have hmark : '"' ∉ i.text.toList := fun h => absurd (forall_mem_ident i '"' h) (by decide)
  have hrun : Cursor.between.run i.sql.toList = (.closed .name i.text.toList, []) := by
    have hquotes : i.sql.toList = '"' :: (i.text.toList ++ ['"']) := by simp [Ident.sql]
    have hfirst : Cursor.between.step '"' = (.quoted .name [], []) := by decide
    rw [hquotes, Cursor.run, hfirst, Cursor.run_append, Cursor.run_quoted_name hmark]
    rfl
  refine lexemes_eq_some.2 ?_
  rw [hrun]
  refine ⟨rfl, ?_⟩
  rw [List.nil_append, Cursor.finish, Quotes.lexeme, String.ofList_toList]

theorem IsName.lexemes_eq {name : String} (h : IsName name) :
    lexemes (":" ++ name) = some [.placeholder name] := by
  have hrun : Cursor.between.run (":" ++ name).toList = (.placeholder name.toList, []) := by
    have hfirst : Cursor.between.step ':' = (.placeholder [], []) := by decide
    rw [String.toList_append]
    show Cursor.between.run (':' :: name.toList) = _
    rw [Cursor.run, hfirst, Cursor.run_placeholder_name h.forall_mem]
    rfl
  refine lexemes_eq_some.2 ?_
  rw [hrun]
  refine ⟨rfl, ?_⟩
  cases hname : name.toList with
  | nil => exact absurd hname h.ne_nil
  | cons c cs => rw [List.nil_append, Cursor.finish, ← hname, String.ofList_toList]; simp

theorem Cursor.first_digit {c : Char} (h : c.isDigit = true) : first c = (number [c], []) := by
  have hne : ∀ d : Char, d.isDigit = false → c ≠ d := by
    rintro d hd rfl
    rw [hd] at h
    exact (nomatch h)
  have hspace : isSpace c = false := by
    simp [isSpace, Char.isWhitespace, hne ' ' (by decide), hne '\t' (by decide),
      hne '\r' (by decide), hne '\n' (by decide), hne '\x0b' (by decide), hne '\x0c' (by decide)]
  rw [first, if_neg (by rw [hspace]; decide), if_neg (hne '"' (by decide)),
    if_neg (hne '\'' (by decide)), if_neg (hne ':' (by decide)), if_neg (hne '$' (by decide)),
    if_pos h]

theorem lexemes_naturalText (n : Nat) :
    lexemes (Text.naturalText n) = some [.number (Text.naturalText n)] := by
  have hdigit : ∀ c ∈ Text.natural n, c.isDigit = true := fun c hc =>
    Nat.isDigit_of_mem_toDigits (by decide) (by decide) hc
  have hrun : Cursor.between.run (Text.natural n) = (.number (Text.natural n), []) := by
    cases hn : Text.natural n with
    | nil => exact absurd hn Nat.toDigits_ne_nil
    | cons c cs =>
      rw [hn] at hdigit
      obtain ⟨hc, -⟩ := List.forall_mem_cons.1 hdigit
      have hfirst : Cursor.between.step c = (.number [c], []) := Cursor.first_digit hc
      have hrest : ∀ d ∈ cs, isNameCharacter d = true := fun d hd =>
        isNameCharacter_of_mem_natural (n := n) (hn ▸ List.mem_cons_of_mem c hd)
      rw [Cursor.run, hfirst, Cursor.run_number hrest]
      rfl
  refine lexemes_eq_some.2 ?_
  rw [Text.naturalText, String.toList_ofList, hrun]
  exact ⟨rfl, rfl⟩

/-! ### Columns -/

/-- The lexemes of a table's full name. -/
def TableName.lexemes (t : TableName) : List Lexeme :=
  [.name t.schema.text, .mark '.', .name t.table.text]

/-- The lexemes of a column's full name. -/
def ColumnName.lexemes (c : ColumnName) : List Lexeme :=
  c.table.lexemes ++ [.mark '.', .name c.column.text]

theorem beginsLexeme_point : BeginsLexeme "." := ⟨'.', [], rfl, by decide⟩

theorem beginsLexeme_closing : BeginsLexeme ")" := ⟨')', [], rfl, by decide⟩

theorem lexemes_table (t : TableName) : lexemes t.sql = some t.lexemes := by
  have hpoint : LexesWhole "." [.mark '.'] := by decide
  exact (lexesWhole_append (lexemes_ident t.schema) beginsLexeme_point hpoint).append
    (lexemes_ident t.table)

theorem lexemes_column (c : ColumnName) : lexemes c.sql = some c.lexemes := by
  have hpoint : LexesWhole "." [.mark '.'] := by decide
  have hcolumn := (lexesWhole_append (lexemes_table c.table) beginsLexeme_point hpoint).append
    (lexemes_ident c.column)
  rwa [List.append_assoc] at hcolumn

/-! ### Random values -/

theorem lexemes_integer (span : Nat) (low : Int) (width : IntegerWidth) :
    lexemes (Generator.integer span low width).sql = some [.word "CAST", .mark '(', .word "FLOOR",
      .mark '(', .word "RANDOM", .mark '(', .mark ')', .operator "*",
      .number (Text.naturalText span), .mark ')', .operator (if low < 0 then "-" else "+"),
      .number (Text.naturalText low.natAbs), .word "AS", .word width.name, .mark ')'] := by
  have hsign : LexesWhole (if low < 0 then "- " else "+ ")
      [.operator (if low < 0 then "-" else "+")] := by
    split <;> decide
  have hfront : LexesWhole "CAST(FLOOR(RANDOM() * " [.word "CAST", .mark '(', .word "FLOOR",
      .mark '(', .word "RANDOM", .mark '(', .mark ')', .operator "*"] := by decide
  have hmiddle : LexesWhole ") " [.mark ')'] := by decide
  have hback : LexesWhole " AS " [.word "AS"] := by decide
  have hclosing : LexesWhole ")" [.mark ')'] := by decide
  have hwidth : lexemes width.name = some [.word width.name] := by cases width <;> decide
  have hspan := lexesWhole_around hfront (lexemes_naturalText span) ⟨')', [' '], rfl, by decide⟩
    hmiddle
  have hlow := lexesWhole_around (hspan.append_whole hsign) (lexemes_naturalText low.natAbs)
    ⟨' ', "AS ".toList, rfl, by decide⟩ hback
  exact (lexesWhole_around hlow hwidth beginsLexeme_closing hclosing).lexemes_eq

theorem lexemes_numeric (bound scale : Nat) :
    lexemes (Generator.numeric bound scale).sql = some [.word "TRUNC", .mark '(', .word "CAST",
      .mark '(', .word "RANDOM", .mark '(', .mark ')', .operator "*",
      .number (Text.naturalText bound), .word "AS", .word "NUMERIC", .mark ')', .mark ',',
      .number (Text.naturalText scale), .mark ')'] := by
  have hfront : LexesWhole "TRUNC(CAST(RANDOM() * " [.word "TRUNC", .mark '(', .word "CAST",
      .mark '(', .word "RANDOM", .mark '(', .mark ')', .operator "*"] := by decide
  have hmiddle : LexesWhole " AS NUMERIC), "
      [.word "AS", .word "NUMERIC", .mark ')', .mark ','] := by decide
  have hclosing : LexesWhole ")" [.mark ')'] := by decide
  have hbound := lexesWhole_around hfront (lexemes_naturalText bound)
    ⟨' ', "AS NUMERIC), ".toList, rfl, by decide⟩ hmiddle
  exact (lexesWhole_around hbound (lexemes_naturalText scale) beginsLexeme_closing
    hclosing).lexemes_eq

theorem lexemes_characters (length : Nat) :
    lexemes (Generator.characters length).sql = some [.word "SUBSTRING", .mark '(', .word "MD5",
      .mark '(', .word "CAST", .mark '(', .word "RANDOM", .mark '(', .mark ')', .word "AS",
      .word "TEXT", .mark ')', .mark ')', .word "FROM", .number "1", .word "FOR",
      .number (Text.naturalText length), .mark ')'] := by
  have hfront : LexesWhole "SUBSTRING(MD5(CAST(RANDOM() AS TEXT)) FROM 1 FOR "
      [.word "SUBSTRING", .mark '(', .word "MD5", .mark '(', .word "CAST", .mark '(',
        .word "RANDOM", .mark '(', .mark ')', .word "AS", .word "TEXT", .mark ')', .mark ')',
        .word "FROM", .number "1", .word "FOR"] := by decide
  have hclosing : LexesWhole ")" [.mark ')'] := by decide
  exact (lexesWhole_around hfront (lexemes_naturalText length) beginsLexeme_closing
    hclosing).lexemes_eq

end TypedTable
