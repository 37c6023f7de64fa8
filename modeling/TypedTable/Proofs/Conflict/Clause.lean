import Mathlib.Data.List.Chain
import TypedTable.Proofs.Declaration.Text
import TypedTable.Query.Insert
/-!
# Reading what an insertion says behind its rows

Behind its rows an insertion says what becomes of a row whose key is in the table already, and which
columns are to come back (`Insert.Ending`). `Insert.Ending.ofText?` reads this from the text of the
statement alone, from the last place where it says something about conflicts: what stands in front
of that place may be SQL text that was given as a value.

Every ending is read back from its text, whatever stands in front of it (`Insert.Ending.ofText?_eq`),
and what `Insert.statement` writes behind its rows is the text of an ending (`Insert.text_ending`).
-/

namespace TypedTable

/-- What is done with a row whose key is in the table already. -/
inductive ConflictAction
  /-- It is left out. -/
  | skip
  /-- Columns of the row that is there get what it has in columns. -/
  | update (assignments : List (Ident × Ident))
deriving DecidableEq

/-- What an insertion says behind its rows. -/
structure Insert.Ending where
  /-- The columns that a row of the same key is found by. -/
  target : List Ident
  action : ConflictAction
  /-- The columns that come back of the rows that are written. -/
  returning : List Ident
deriving DecidableEq

/-! ### Reading -/

/-- A text from the last place on where another one stands in it. -/
def fromLast? (mark : List Char) : List Char → Option (List Char)
  | [] => none
  | c :: cs =>
    (fromLast? mark cs).or (if mark.isPrefixOf (c :: cs) then some (c :: cs) else none)

namespace ConflictAction

/-- Reads an assignment of what the row that was to be written has in a column. -/
def readAssignment? (ls : List Lexeme) : Option ((Ident × Ident) × List Lexeme) := do
  let (column, ls) ← Ident.read? ls
  let ls ← ls.dropPrefix? [.operator "=", .word "EXCLUDED", .mark '.']
  let (source, ls) ← Ident.read? ls
  some ((column, source), ls)

/-- Reads what is done. -/
def read? (ls : List Lexeme) : Option (ConflictAction × List Lexeme) :=
  match ls.dropPrefix? [.word "DO", .word "NOTHING"] with
  | some ls => some (skip, ls)
  | none => do
    let ls ← ls.dropPrefix? [.word "DO", .word "UPDATE", .word "SET"]
    let (assignments, ls) ← readList? readAssignment? ls.length ls
    some (update assignments, ls)

end ConflictAction

namespace Insert.Ending

/-- Reads the columns that a row is found by, which may be left out. -/
def readTarget? (ls : List Lexeme) : Option (List Ident × List Lexeme) :=
  match ls.dropPrefix? [.mark '('] with
  | some ls => readNames? ls
  | none => some ([], ls)

/-- Reads an ending to its end. -/
def ofLexemes? (ls : List Lexeme) : Option Ending := do
  let ls ← ls.dropPrefix? [.word "ON", .word "CONFLICT"]
  let (target, ls) ← readTarget? ls
  let (action, ls) ← ConflictAction.read? ls
  let ls ← ls.dropPrefix? [.word "RETURNING"]
  let (returning, ls) ← readList? Ident.read? ls.length ls
  if ls = [] then some ⟨target, action, returning⟩ else none

/-- What a statement says behind its rows. -/
def ofText? (sql : String) : Option Ending := do
  let text ← fromLast? " ON CONFLICT".toList sql.toList
  let ls ← lexemes (String.ofList text)
  ofLexemes? ls

end Insert.Ending

/-! ### Writing -/

namespace ConflictAction

/-- An assignment as it stands in SQL. -/
def assignmentText (a : Ident × Ident) : String := a.1.sql ++ " = EXCLUDED." ++ a.2.sql

/-- What is done, as it stands in SQL. -/
def text : ConflictAction → String
  | skip => " DO NOTHING"
  | update assignments => " DO UPDATE SET " ++ Text.commas (assignments.map assignmentText)

/-- The lexemes of an assignment. -/
def assignmentLexemes (a : Ident × Ident) : List Lexeme :=
  [.name a.1.text, .operator "=", .word "EXCLUDED", .mark '.', .name a.2.text]

/-- The lexemes of what is done. -/
def lexemes : ConflictAction → List Lexeme
  | skip => [.word "DO", .word "NOTHING"]
  | update assignments =>
    [.word "DO", .word "UPDATE", .word "SET"] ++
      Lexeme.listed (assignments.map assignmentLexemes)

end ConflictAction

namespace Insert.Ending

/-- The columns that a row is found by, as they stand in SQL. -/
def targetText (target : List Ident) : String :=
  if target = [] then "" else " (" ++ Text.commas (target.map Ident.sql) ++ ")"

/-- An ending as it stands in SQL. -/
def text (e : Ending) : String :=
  " ON CONFLICT" ++ targetText e.target ++ e.action.text ++ " RETURNING " ++
    Text.commas (e.returning.map Ident.sql)

/-- The lexemes of names in a row. -/
def nameLexemes (names : List Ident) : List Lexeme :=
  Lexeme.listed (names.map fun name => [.name name.text])

/-- The lexemes of the columns that a row is found by. -/
def targetLexemes (target : List Ident) : List Lexeme :=
  if target = [] then [] else .mark '(' :: nameLexemes target ++ [.mark ')']

/-- The lexemes of an ending. -/
def lexemes (e : Ending) : List Lexeme :=
  [.word "ON", .word "CONFLICT"] ++ targetLexemes e.target ++ e.action.lexemes ++
    [.word "RETURNING"] ++ nameLexemes e.returning

/-- Whether an ending can be written: something is assigned if anything is, and something comes
back. -/
structure IsWritable (e : Ending) : Prop where
  action : e.action ≠ .update []
  returning : e.returning ≠ []

end Insert.Ending

/-! ### The lexemes of the text -/

theorem lexemes_append {s s' : String} {ls ls' : List Lexeme} (h : lexemes s = some ls)
    (hbegins : BeginsLexeme s') (h' : lexemes s' = some ls') :
    lexemes (s ++ s') = some (ls ++ ls') :=
  lexemes_of_run h' (run_append_of_lexemes h hbegins)

namespace ConflictAction

theorem lexemes_assignmentText (a : Ident × Ident) :
    TypedTable.lexemes (assignmentText a) = some (assignmentLexemes a) := by
  have hmiddle : LexesWhole " = EXCLUDED." [.operator "=", .word "EXCLUDED", .mark '.'] := by
    decide
  exact (lexesWhole_append (lexemes_ident a.1) ⟨' ', "= EXCLUDED.".toList, rfl, by decide⟩
    hmiddle).append (lexemes_ident a.2)

theorem lexemes_text (action : ConflictAction) :
    TypedTable.lexemes action.text = some action.lexemes := by
  cases action with
  | skip => decide
  | update assignments =>
    have hfront : LexesWhole " DO UPDATE SET " [.word "DO", .word "UPDATE", .word "SET"] := by
      decide
    exact hfront.append (lexemes_commas fun a _ => lexemes_assignmentText a)

theorem beginsLexeme_text (action : ConflictAction) : BeginsLexeme action.text := by
  cases action with
  | skip => exact ⟨' ', "DO NOTHING".toList, rfl, by decide⟩
  | update assignments =>
    have hfront : BeginsLexeme " DO UPDATE SET " := ⟨' ', "DO UPDATE SET ".toList, rfl, by decide⟩
    exact hfront.append _

end ConflictAction

namespace Insert.Ending

theorem lexemes_names (names : List Ident) :
    TypedTable.lexemes (Text.commas (names.map Ident.sql)) = some (nameLexemes names) :=
  lexemes_commas fun name _ => lexemes_ident name

theorem lexesBehind_targetText (target : List Ident) :
    LexesBehind (targetText target) (targetLexemes target) := by
  unfold targetText targetLexemes
  split
  · exact .inl ⟨rfl, rfl⟩
  · have hopening : LexesWhole " (" [.mark '('] := by decide
    have hclosing : LexesWhole ")" [.mark ')'] := by decide
    have hbegins : BeginsLexeme " (" := ⟨' ', ['('], rfl, by decide⟩
    exact .inr ⟨(hbegins.append _).append _, (lexesWhole_around hopening (lexemes_names target)
      beginsLexeme_closing hclosing).lexemes_eq⟩

theorem lexemes_text (e : Ending) : TypedTable.lexemes e.text = some e.lexemes := by
  have hconflict : TypedTable.lexemes " ON CONFLICT" = some [.word "ON", .word "CONFLICT"] := by
    decide
  have hreturning : LexesWhole " RETURNING " [.word "RETURNING"] := by decide
  have hbegins : BeginsLexeme " RETURNING " := ⟨' ', "RETURNING ".toList, rfl, by decide⟩
  have haction := lexemes_append ((lexesBehind_targetText e.target).append hconflict)
    e.action.beginsLexeme_text e.action.lexemes_text
  exact (lexesWhole_append haction hbegins hreturning).append (lexemes_names e.returning)

end Insert.Ending

/-! ### What is written is read -/

namespace ConflictAction

theorem readAssignment?_append (a : Ident × Ident) (rest : List Lexeme) :
    readAssignment? (assignmentLexemes a ++ rest) = some (a, rest) := by
  have hlexemes : assignmentLexemes a ++ rest = .name a.1.text ::
      ([.operator "=", .word "EXCLUDED", .mark '.'] ++ .name a.2.text :: rest) := rfl
  rw [hlexemes, readAssignment?]
  simp only [Ident.read?_cons, dropPrefix?_append, bind, Option.bind_some]

/-- What is done is read up to the word behind it. -/
theorem read?_append {action : ConflictAction} (h : action ≠ .update []) (word : String)
    (rest : List Lexeme) :
    read? (action.lexemes ++ .word word :: rest) = some (action, .word word :: rest) := by
  cases action with
  | skip => rw [read?, lexemes, dropPrefix?_append]
  | update assignments =>
    have hne : assignments ≠ [] := fun hnil => h (congrArg update hnil)
    have hskip : ([Lexeme.word "DO", .word "UPDATE", .word "SET"] ++
        (Lexeme.listed (assignments.map assignmentLexemes) ++ .word word :: rest)).dropPrefix?
          [.word "DO", .word "NOTHING"] = none := rfl
    have hlength := length_le_listed assignmentLexemes (fun _ => List.cons_ne_nil _ _) assignments
    rw [read?, lexemes, List.append_assoc, hskip]
    dsimp only
    rw [dropPrefix?_append]
    simp only [bind, Option.bind_some]
    have hword : (Lexeme.word word :: rest).head? ≠ some (.mark ',') := fun h => (nomatch h)
    rw [readList?_append (fun a _ ls _ => readAssignment?_append a ls) hne hword
      (by rw [List.length_append]; omega)]
    rfl

end ConflictAction

namespace Insert.Ending

/-- The columns that a row is found by are read up to the word behind them. -/
theorem readTarget?_append (target : List Ident) (word : String) (rest : List Lexeme) :
    readTarget? (targetLexemes target ++ .word word :: rest) =
      some (target, .word word :: rest) := by
  unfold targetLexemes
  split
  · next hnil =>
    rw [hnil]
    rfl
  · next hne =>
    have hlexemes : .mark '(' :: nameLexemes target ++ [.mark ')'] ++ .word word :: rest =
        [.mark '('] ++ (nameLexemes target ++ .mark ')' :: .word word :: rest) := by simp
    rw [hlexemes, readTarget?, dropPrefix?_append]
    exact readNames?_append hne _

/-- An ending is read back from its lexemes. -/
theorem ofLexemes?_lexemes {e : Ending} (h : e.IsWritable) : ofLexemes? e.lexemes = some e := by
  obtain ⟨target, action, returning⟩ := e
  obtain ⟨haction, hreturning⟩ := h
  dsimp only at haction hreturning
  -- Behind the columns that a row is found by there is a word, whatever is done.
  have htarget : ∀ rest, readTarget? (targetLexemes target ++ (action.lexemes ++ rest)) =
      some (target, action.lexemes ++ rest) := by
    intro rest
    cases action <;> exact readTarget?_append target "DO" _
  have hnames : readList? Ident.read? (nameLexemes returning).length (nameLexemes returning) =
      some (returning, []) := by
    have hname : ∀ name ∈ returning, ∀ ls : List Lexeme,
        ls = [] ∨ (∃ tail, ls = .mark ',' :: tail) →
          Ident.read? ([.name name.text] ++ ls) = some (name, ls) :=
      fun name _ ls _ => Ident.read?_cons name ls
    have hlength := length_le_listed (fun name : Ident => [.name name.text])
      (fun _ => List.cons_ne_nil _ _) returning
    have hread := readList?_append hname hreturning (fun h => (nomatch h)) hlength
    rwa [List.append_nil] at hread
  simp only [ofLexemes?, lexemes, List.append_assoc, dropPrefix?_append, htarget, bind,
    Option.bind_some, List.singleton_append, ConflictAction.read?_append haction]
  have hword : (Lexeme.word "RETURNING" :: nameLexemes returning).dropPrefix? [.word "RETURNING"] =
      some (nameLexemes returning) := dropPrefix?_append [.word "RETURNING"] _
  rw [hword, Option.bind_some, hnames]
  rfl

end Insert.Ending

/-! ### The place where an ending begins -/

/-- Whether a text has no colon, and no capital O at its front or behind a space. -/
def Calm (s : String) : Prop :=
  ':' ∉ s.toList ∧ List.IsChain (fun c d => c = ' ' → d ≠ 'O') (' ' :: s.toList)

instance (s : String) : Decidable (Calm s) :=
  inferInstanceAs (Decidable (':' ∉ s.toList ∧
    List.IsChain (fun c d => c = ' ' → d ≠ 'O') (' ' :: s.toList)))

theorem Calm.append {s s' : String} (h : Calm s) (h' : Calm s') : Calm (s ++ s') := by
  obtain ⟨hcolon, hchain⟩ := h
  obtain ⟨hcolon', hchain'⟩ := h'
  refine ⟨by simp [hcolon, hcolon'], ?_⟩
  rw [String.toList_append, ← List.cons_append, List.isChain_append]
  refine ⟨hchain, hchain'.tail, fun c _ d hd _ => ?_⟩
  -- What begins the second text is no capital O, whatever it stands behind.
  exact (List.isChain_cons.1 hchain').1 d hd rfl

theorem calm_of_forall {s : String} (h : ∀ c ∈ s.toList, c ≠ ':' ∧ c ≠ ' ')
    (hhead : s.toList.head? ≠ some 'O') : Calm s := by
  refine ⟨fun hcolon => (h ':' hcolon).1 rfl, List.isChain_cons.2 ⟨?_, ?_⟩⟩
  · rintro d hd - rfl
    exact hhead hd
  · refine List.Pairwise.isChain (List.Pairwise.imp_of_mem (R := fun _ _ => True) ?_ ?_)
    · exact fun hc _ _ hspace => absurd hspace (h _ hc).2
    · exact List.pairwise_of_forall fun _ _ => trivial

theorem calm_ident (i : Ident) : Calm i.sql := by
  have hquotes : i.sql.toList = '"' :: (i.text.toList ++ ['"']) := by simp [Ident.sql]
  have hname : ∀ c ∈ i.text.toList, c ≠ ':' ∧ c ≠ ' ' := by
    intro c hc
    have hcharacter := forall_mem_ident i c hc
    constructor <;> rintro rfl <;> exact absurd hcharacter (by decide)
  refine calm_of_forall (fun c hc => ?_) (by rw [hquotes]; simp)
  rw [hquotes, List.mem_cons, List.mem_append, List.mem_singleton] at hc
  rcases hc with rfl | hc | rfl
  · decide
  · exact hname c hc
  · decide

theorem calm_commas {l : List String} (h : ∀ s ∈ l, Calm s) : Calm (Text.commas l) := by
  induction l with
  | nil => decide
  | cons s rest ih =>
    obtain ⟨hs, hrest⟩ := List.forall_mem_cons.1 h
    cases rest with
    | nil => exact hs
    | cons s' rest =>
      have hcomma : Calm ", " := by decide
      exact (hs.append hcomma).append (ih hrest)

theorem calm_names (names : List Ident) : Calm (Text.commas (names.map Ident.sql)) := by
  refine calm_commas fun s hs => ?_
  obtain ⟨name, -, rfl⟩ := List.mem_map.1 hs
  exact calm_ident name

/-- What begins with a space and a capital O does not stand in a text without such a place. -/
theorem fromLast?_eq_none {mark cs : List Char}
    (h : List.IsChain (fun c d => c = ' ' → d ≠ 'O') cs) :
    fromLast? (' ' :: 'O' :: mark) cs = none := by
  induction cs with
  | nil => rfl
  | cons c cs ih =>
    obtain ⟨hc, hcs⟩ := List.isChain_cons.1 h
    rw [fromLast?, ih hcs, Option.none_or, if_neg]
    intro hprefix
    obtain ⟨rest, hrest⟩ := List.isPrefixOf_iff_prefix.1 hprefix
    obtain ⟨rfl, rfl⟩ := List.cons.inj hrest
    exact hc 'O' rfl rfl rfl

/-- The last place is found whatever stands in front of it. -/
theorem fromLast?_append {mark cs text : List Char} (h : fromLast? mark cs = some text)
    (before : List Char) : fromLast? mark (before ++ cs) = some text := by
  induction before with
  | nil => exact h
  | cons c before ih => rw [List.cons_append, fromLast?, ih, Option.some_or]

namespace Insert.Ending

/-- Behind its first word an ending is calm. -/
theorem exists_calm (e : Ending) : ∃ rest, Calm rest ∧ e.text = " ON CONFLICT" ++ rest := by
  have hopening : Calm " (" := by decide
  have hclosing : Calm ")" := by decide
  have hreturning : Calm " RETURNING " := by decide
  have htarget : Calm (targetText e.target) := by
    unfold targetText
    split
    · decide
    · exact (hopening.append (calm_names e.target)).append hclosing
  have haction : Calm e.action.text := by
    cases e.action with
    | skip => decide
    | update assignments =>
      have hupdate : Calm " DO UPDATE SET " := by decide
      have hexcluded : Calm " = EXCLUDED." := by decide
      refine hupdate.append (calm_commas fun s hs => ?_)
      obtain ⟨a, -, rfl⟩ := List.mem_map.1 hs
      exact ((calm_ident a.1).append hexcluded).append (calm_ident a.2)
  refine ⟨_, htarget.append (haction.append (hreturning.append (calm_names e.returning))), ?_⟩
  rw [← String.append_assoc, ← String.append_assoc, ← String.append_assoc]
  rfl

/-- An ending is read back from its text, whatever stands in front of it. -/
theorem ofText?_eq {e : Ending} (h : e.IsWritable) {sql : String} {before : List Char}
    (hsql : sql.toList = before ++ e.text.toList) : ofText? sql = some e := by
  obtain ⟨rest, hcalm, htext⟩ := e.exists_calm
  have hword : Calm "N CONFLICT" := by decide
  have hlist : e.text.toList = ' ' :: 'O' :: ("N CONFLICT" ++ rest).toList := by
    rw [htext, String.toList_append, String.toList_append]
    rfl
  have hlast : fromLast? " ON CONFLICT".toList e.text.toList = some e.text.toList := by
    have hbehind := (List.isChain_cons.1 (hword.append hcalm).2).2
    have hnone : fromLast? " ON CONFLICT".toList ('O' :: ("N CONFLICT" ++ rest).toList) = none :=
      fromLast?_eq_none (List.isChain_cons.2 ⟨fun _ _ h => absurd h (by decide), hbehind⟩)
    have hprefix : " ON CONFLICT".toList.isPrefixOf (' ' :: 'O' :: ("N CONFLICT" ++ rest).toList) =
        true := by
      rw [← hlist, htext, String.toList_append]
      exact List.isPrefixOf_iff_prefix.2 (List.prefix_append _ _)
    rw [hlist, fromLast?, hnone, Option.none_or, if_pos hprefix]
  have hread := fromLast?_append hlast before
  rw [ofText?, hsql, hread]
  simp only [bind, Option.bind_some, String.ofList_toList, lexemes_text, ofLexemes?_lexemes h]

/-- No colon stands in an ending. -/
theorem colon_not_mem_text (e : Ending) : ':' ∉ e.text.toList := by
  obtain ⟨rest, ⟨hcolon, -⟩, htext⟩ := e.exists_calm
  rw [htext, String.toList_append, List.mem_append, not_or]
  exact ⟨by decide, hcolon⟩

/-- No name goes on where an ending begins. -/
theorem endsName_text (e : Ending) : EndsName e.text.toList := by
  obtain ⟨rest, -, htext⟩ := e.exists_calm
  rw [htext, String.toList_append]
  exact endsName_cons.2 rfl

end Insert.Ending

/-! ### What insertions say -/

namespace Insert

/-- What an insertion into a table says behind its rows. -/
def ending (s : Schema) (policy : ConflictPolicy) : Ending where
  target := s.primaryKey.map Column.ident
  action :=
    match policy with
    | .doNothing => .skip
    | .upsert => .update (s.columns.map fun c => (c.ident, c.ident))
  returning := s.columns.map Column.ident

theorem isWritable_ending {s : Schema} (h : s.columns ≠ []) (policy : ConflictPolicy) :
    (ending s policy).IsWritable := by
  have hne : ∀ {α : Type} (f : Column → α), s.columns.map f ≠ [] :=
    fun f hnil => h (List.map_eq_nil_iff.1 hnil)
  refine ⟨fun hnil => ?_, hne Column.ident⟩
  cases policy with
  | doNothing => exact (nomatch hnil)
  | upsert => exact hne _ (ConflictAction.update.inj hnil)

/-- A row is found by the columns of the key. -/
theorem targetText_primaryKey {s : Schema} (hkey : s.hasPrimaryKey = true) :
    Ending.targetText (s.primaryKey.map Column.ident) = " (" ++ s.keyList ++ ")" := by
  have hkeys : Text.commas ((s.primaryKey.map Column.ident).map Ident.sql) = s.keyList :=
    congrArg Text.commas List.map_map
  rw [Ending.targetText, if_neg fun hnil =>
    s.hasPrimaryKey_iff.1 hkey (List.map_eq_nil_iff.1 hnil), hkeys]

theorem conflict_doNothing (s : Schema) :
    conflict s .doNothing =
      " ON CONFLICT" ++ Ending.targetText (s.primaryKey.map Column.ident) ++ " DO NOTHING" := by
  have hopening : " ON CONFLICT (" = " ON CONFLICT" ++ " (" := rfl
  have hnothing : ") DO NOTHING" = ")" ++ " DO NOTHING" := rfl
  unfold conflict
  dsimp only
  split
  · next hkey =>
    rw [targetText_primaryKey hkey, hopening, hnothing]
    simp only [String.append_assoc]
  · next hnone =>
    have hnil : s.primaryKey = [] := by
      by_contra hne
      exact hnone (s.hasPrimaryKey_iff.2 hne)
    rw [hnil]
    rfl

theorem conflict_upsert {s : Schema} (hkey : s.hasPrimaryKey = true) :
    conflict s .upsert =
      " ON CONFLICT" ++ Ending.targetText (s.primaryKey.map Column.ident) ++
        (ConflictAction.update (s.columns.map fun c => (c.ident, c.ident))).text := by
  have hopening : " ON CONFLICT (" = " ON CONFLICT" ++ " (" := rfl
  have hupdate : ") DO UPDATE SET " = ")" ++ " DO UPDATE SET " := rfl
  have hset : (ConflictAction.update (s.columns.map fun c => (c.ident, c.ident))).text =
      " DO UPDATE SET " ++
        Text.commas (s.columns.map fun c => c.ident.sql ++ " = EXCLUDED." ++ c.ident.sql) :=
    congrArg (fun l => " DO UPDATE SET " ++ Text.commas l) List.map_map
  have hconflict : conflict s .upsert = " ON CONFLICT (" ++ s.keyList ++ ") DO UPDATE SET " ++
      Text.commas (s.columns.map fun c => c.ident.sql ++ " = EXCLUDED." ++ c.ident.sql) := rfl
  rw [targetText_primaryKey hkey, hset, hconflict, hopening, hupdate]
  simp only [String.append_assoc]

/-- What stands behind the rows of a statement is its ending. -/
theorem text_ending {s : Schema} {policy : ConflictPolicy}
    (hkey : policy = .upsert → s.hasPrimaryKey = true) :
    (ending s policy).text = conflict s policy ++ " RETURNING " ++ s.columnList := by
  have hcolumns : Text.commas ((s.columns.map Column.ident).map Ident.sql) = s.columnList :=
    congrArg Text.commas List.map_map
  have hconflict : conflict s policy = " ON CONFLICT" ++
      Ending.targetText (ending s policy).target ++ (ending s policy).action.text := by
    cases policy with
    | doNothing => exact conflict_doNothing s
    | upsert => exact conflict_upsert (hkey rfl)
  rw [hconflict, ← hcolumns]
  rfl

end Insert

end TypedTable
