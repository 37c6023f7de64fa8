import TypedTable.Proofs.Reader.Expression
/-!
# Tokens of conditions

`tokens` cuts a text into the tokens that conditions are made of. A quoted name is one token, and so
is a placeholder, a word or an operator; words may be in small or capital letters. Whatever else a
text has in it becomes the token `other`.

Texts behind each other have the tokens of both, one after the other, if the first one ends with a
complete token (`Whole.append`) or the second one begins with a character that cannot belong to the
last token of the first (`Spells.append`).
-/

namespace TypedTable

/-- A token of a condition. -/
inductive Token
  /-- A name in double quotes. -/
  | identifier (name : String)
  | placeholder (name : String)
  | comparison (c : Comparator)
  | join (c : Connective)
  | not
  | is
  | null
  | constant (b : Bool)
  /-- The word in front of a condition. -/
  | filter
  | opening
  | closing
  | point
  /-- What no condition is made of. -/
  | other
deriving DecidableEq

namespace Token

/-- The words of conditions. -/
def words : List (String × Token) :=
  [("AND", join .and), ("OR", join .or), ("NOT", not), ("IS", is), ("NULL", null),
    ("TRUE", constant true), ("FALSE", constant false), ("LIKE", comparison .like),
    ("WHERE", filter)]

/-- The operators of conditions. -/
def operators : List (String × Token) :=
  [("=", comparison .eq), ("!=", comparison .ne), ("<>", comparison .ne), ("<", comparison .lt),
    (">", comparison .gt), ("<=", comparison .le), (">=", comparison .ge)]

/-- The characters that are tokens by themselves. -/
def marks : List (String × Token) := [("(", opening), (")", closing), (".", point)]

/-- The token that is spelled in this way. -/
def spelled (table : List (String × Token)) (characters : List Char) : Token :=
  (table.lookup (String.ofList characters)).getD other

/-- A token that is made from a name. -/
def named (token : String → Token) : List Char → Token
  | [] => other
  | name => token (String.ofList name)

end Token

/-- Whether an operator can have this character in it. -/
def isOperatorCharacter (c : Char) : Bool := "+-*/<>=~!@#%^&|?".toList.contains c

/-- What the characters read so far say about the next one. -/
inductive LexState
  | start
  /-- Inside a quoted name. -/
  | quoted (name : List Char)
  /-- Behind a mark inside a quoted name, which closes it or is the first of two that stand for
  one. -/
  | closed (name : List Char)
  | placeholder (name : List Char)
  | word (characters : List Char)
  | operator (characters : List Char)
deriving DecidableEq

namespace LexState

/-- Reads the first character of a token. -/
def first (c : Char) : LexState × List Token :=
  if c.isWhitespace then (start, [])
  else if c = '"' then (quoted [], [])
  else if c = ':' then (placeholder [], [])
  else if isNameCharacter c then (word [c], [])
  else if isOperatorCharacter c then (operator [c], [])
  else (start, [.spelled Token.marks [c]])

/-- Reads a character of the token that was begun, unless the token is complete without it. -/
def more : LexState → Char → Option LexState
  | start, _ => none
  | quoted name, c => some (if c = '"' then closed name else quoted (name ++ [c]))
  | closed name, c => if c = '"' then some (quoted (name ++ [c])) else none
  | placeholder name, c => if isNameCharacter c then some (placeholder (name ++ [c])) else none
  | word characters, c => if isNameCharacter c then some (word (characters ++ [c])) else none
  | operator characters, c =>
    if isOperatorCharacter c then some (operator (characters ++ [c])) else none

/-- The token that was begun. -/
def finish : LexState → List Token
  | start => []
  | quoted _ => [.other]
  | closed name => [.named .identifier name]
  | placeholder name => [.named .placeholder name]
  | word characters => [.spelled Token.words (characters.map Char.toUpper)]
  | operator characters => [.spelled Token.operators characters]

/-- Reads one character and gives the tokens that are complete with it. -/
def step (s : LexState) (c : Char) : LexState × List Token :=
  match s.more c with
  | some s' => (s', [])
  | none => ((first c).1, s.finish ++ (first c).2)

/-- Reads characters one after the other. -/
def run : LexState → List Char → LexState × List Token
  | s, [] => (s, [])
  | s, c :: rest => ((run (s.step c).1 rest).1, (s.step c).2 ++ (run (s.step c).1 rest).2)

theorem run_append (s : LexState) (cs ds : List Char) :
    s.run (cs ++ ds) =
      (((s.run cs).1.run ds).1, (s.run cs).2 ++ ((s.run cs).1.run ds).2) := by
  induction cs generalizing s with
  | nil => rfl
  | cons c cs ih => rw [List.cons_append, run, ih, run, List.append_assoc]

end LexState

/-- The tokens of a text. -/
def tokens (text : String) : List Token :=
  (LexState.start.run text.toList).2 ++ (LexState.start.run text.toList).1.finish

/-! ### Texts behind each other -/

/-- Whether no token goes on with this character, except inside a quoted name. -/
def isSeparate (c : Char) : Bool := c != '"' && !isNameCharacter c && !isOperatorCharacter c

/-- Whether no quoted name has been left open. -/
def LexState.isOutside : LexState → Bool
  | quoted _ => false
  | _ => true

/-- In front of a separate character a token is complete. -/
theorem LexState.step_separate {s : LexState} {c : Char} (hs : s.isOutside = true)
    (hc : isSeparate c = true) : s.step c = ((first c).1, s.finish ++ (first c).2) := by
  simp only [isSeparate, Bool.and_eq_true, bne_iff_ne, Bool.not_eq_true'] at hc
  obtain ⟨⟨hquote, hname⟩, hoperator⟩ := hc
  have hmore : s.more c = none := by
    cases s with
    | start => rfl
    | quoted name => exact (nomatch hs)
    | closed name => exact if_neg hquote
    | placeholder name | word characters => exact if_neg (by rw [hname]; decide)
    | operator characters => exact if_neg (by rw [hoperator]; decide)
  rw [step, hmore]

/-- A text with its tokens, the last of which may go on in what is put behind the text. -/
structure Spells (s : String) (ts : List Token) : Prop where
  tokens_eq : tokens s = ts
  outside : (LexState.start.run s.toList).1.isOutside = true

/-- A text with its tokens, all of which are complete. -/
def Whole (s : String) (ts : List Token) : Prop := LexState.start.run s.toList = (.start, ts)

instance (s : String) (ts : List Token) : Decidable (Whole s ts) :=
  inferInstanceAs (Decidable (_ = _))

/-- Whether a text begins with a separate character. -/
def BeginsApart (s : String) : Prop := ∃ c rest, s.toList = c :: rest ∧ isSeparate c = true

section

variable {s s' : String} {ts ts' : List Token}

theorem Whole.spells (h : Whole s ts) : Spells s ts := by
  unfold Whole at h
  exact ⟨by simp [tokens, h, LexState.finish], by rw [h]; rfl⟩

/-- A text without a complete token in it is the one that was begun. -/
theorem spells_of_run {state : LexState} (h : LexState.start.run s.toList = (state, []))
    (hstate : state.isOutside = true) : Spells s state.finish :=
  ⟨by rw [tokens, h, List.nil_append], by rw [h]; exact hstate⟩

/-- What is put behind a text in a way that ends its last token is read from the start. -/
theorem Spells.run_append (h : Spells s ts) (hs' : BeginsApart s') :
    LexState.start.run (s ++ s').toList =
      ((LexState.start.run s'.toList).1, ts ++ (LexState.start.run s'.toList).2) := by
  obtain ⟨c, rest, hs', hc⟩ := hs'
  have hstep := LexState.step_separate h.outside hc
  have hstart : LexState.start.step c = LexState.first c := rfl
  rw [String.toList_append, LexState.run_append, hs', LexState.run, LexState.run, hstep, hstart,
    ← h.tokens_eq, tokens]
  simp only [List.append_assoc]

/-- If what is put behind a text is read from the start, the tokens are those of both. -/
theorem Spells.of_run (h' : Spells s' ts') {text : String}
    (hrun : LexState.start.run text.toList =
      ((LexState.start.run s'.toList).1, ts ++ (LexState.start.run s'.toList).2)) :
    Spells text (ts ++ ts') := by
  constructor
  · rw [tokens, hrun, List.append_assoc, ← h'.tokens_eq, tokens]
  · rw [hrun]
    exact h'.outside

theorem Spells.append (h : Spells s ts) (hs' : BeginsApart s') (h' : Spells s' ts') :
    Spells (s ++ s') (ts ++ ts') :=
  h'.of_run (h.run_append hs')

theorem Spells.append_whole (h : Spells s ts) (hs' : BeginsApart s') (h' : Whole s' ts') :
    Whole (s ++ s') (ts ++ ts') := by
  unfold Whole at h' ⊢
  rw [h.run_append hs', h']

theorem Whole.append (h : Whole s ts) (h' : Spells s' ts') : Spells (s ++ s') (ts ++ ts') := by
  unfold Whole at h
  refine h'.of_run ?_
  rw [String.toList_append, LexState.run_append, h]

end

/-! ### Names -/

/-- A quoted name is taken up to its mark. -/
theorem LexState.run_quoted {cs : List Char} (h : '"' ∉ cs) (taken : List Char) :
    (quoted taken).run cs = (quoted (taken ++ cs), []) := by
  induction cs generalizing taken with
  | nil => rw [List.append_nil, run]
  | cons c cs ih =>
    obtain ⟨hne, hcs⟩ : '"' ≠ c ∧ '"' ∉ cs := by simpa using h
    rw [run, step, more, if_neg (Ne.symm hne)]
    simp [ih hcs]

/-- A placeholder takes all characters of a name. -/
theorem LexState.run_placeholder {cs : List Char} (h : ∀ c ∈ cs, isNameCharacter c = true)
    (taken : List Char) : (placeholder taken).run cs = (placeholder (taken ++ cs), []) := by
  induction cs generalizing taken with
  | nil => rw [List.append_nil, run]
  | cons c cs ih =>
    obtain ⟨hc, hcs⟩ := List.forall_mem_cons.1 h
    rw [run, step, more, if_pos hc]
    simp [ih hcs]

theorem Token.named_toList {s : String} (h : s.toList ≠ []) (token : String → Token) :
    Token.named token s.toList = token s := by
  cases hs : s.toList with
  | nil => exact absurd hs h
  | cons c cs =>
    rw [← String.ofList_toList (s := s), hs]
    rfl

theorem spells_ident (i : Ident) : Spells i.sql [.identifier i.text] := by
  have hmark : '"' ∉ i.text.toList := fun h => absurd (forall_mem_ident i '"' h) (by decide)
  have hrun : LexState.start.run i.sql.toList = (.closed i.text.toList, []) := by
    have hquotes : i.sql.toList = '"' :: (i.text.toList ++ ['"']) := by simp [Ident.sql]
    have hfirst : LexState.start.step '"' = (.quoted [], []) := by decide
    rw [hquotes, LexState.run, hfirst, LexState.run_append, LexState.run_quoted hmark]
    rfl
  have hspells := spells_of_run hrun rfl
  rwa [LexState.finish, Token.named_toList i.nonempty] at hspells

/-- The tokens of a column's full name. -/
def Column.tokens (c : Column) : List Token :=
  [.identifier c.table.schema.text, .point, .identifier c.table.table.text, .point,
    .identifier c.ident.text]

theorem spells_column (c : Column) : Spells c.sql c.tokens := by
  have hpoint : Whole "." [.point] := by decide
  have hapart : BeginsApart "." := ⟨'.', [], rfl, by decide⟩
  have htable := ((spells_ident c.table.schema).append_whole hapart hpoint).append
    (spells_ident c.table.table)
  exact (htable.append_whole hapart hpoint).append (spells_ident c.ident)

theorem IsName.spells {name : String} (h : IsName name) :
    Spells (":" ++ name) [.placeholder name] := by
  have hrun : LexState.start.run (":" ++ name).toList = (.placeholder name.toList, []) := by
    have hfirst : LexState.start.step ':' = (.placeholder [], []) := by decide
    rw [String.toList_append]
    show LexState.start.run (':' :: name.toList) = _
    rw [LexState.run, hfirst, LexState.run_placeholder h.forall_mem]
    rfl
  have hspells := spells_of_run hrun rfl
  rwa [LexState.finish, Token.named_toList h.ne_nil] at hspells

theorem spells_comparator (c : Comparator) : Spells c.sql [.comparison c] := by
  cases c <;> exact ⟨by decide, by decide⟩

end TypedTable
