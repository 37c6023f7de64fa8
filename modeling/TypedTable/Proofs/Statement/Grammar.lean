import TypedTable.Statement
/-!
# The placeholders of a text

`Lexes cs ps` cuts a text into pieces form by form: quotations, double colons, placeholders, and
single characters. It says where a placeholder begins and ends without a state: a colon, then all
characters that can stand in a name, of which there is at least one. The forms exclude each other,
and `lexes_iff` says that the pieces they give are those that the scanner finds one character at a
time.

Two things are read off the forms: what comes next decides where a name ends (`EndsName`), and
`unquoted` is the text without its quotations.
-/

namespace TypedTable

/-- Whether a character opens a quotation. -/
def IsQuote (c : Char) : Prop := c = '\'' ∨ c = '"'

/-- Whether a text goes on with something that cannot be part of a name. -/
def EndsName (rest : List Char) : Prop := ∀ c ∈ rest.head?, isNameCharacter c = false

/-- Characters that are sent as they are. -/
def verbatim (cs : List Char) : List Piece := cs.map .verbatim

/-- How a text is cut into pieces. -/
inductive Lexes : List Char → List Piece → Prop
  | nil : Lexes [] []
  /-- A quotation ends at the next mark like the one that opens it. -/
  | quotation {mark : Char} {body rest : List Char} {ps : List Piece} :
      IsQuote mark → mark ∉ body → Lexes rest ps →
        Lexes (mark :: (body ++ mark :: rest)) (verbatim (mark :: (body ++ [mark])) ++ ps)
  /-- A quotation that is never closed goes on to the end. -/
  | openQuotation {mark : Char} {body : List Char} :
      IsQuote mark → mark ∉ body → Lexes (mark :: body) (verbatim (mark :: body))
  /-- Of colons in a row the first two belong together. -/
  | cast {rest : List Char} {ps : List Piece} :
      Lexes rest ps → Lexes (':' :: ':' :: rest) (verbatim [':', ':'] ++ ps)
  | placeholder {name rest : List Char} {ps : List Piece} :
      name ≠ [] → (∀ c ∈ name, isNameCharacter c = true) → EndsName rest → Lexes rest ps →
        Lexes (':' :: (name ++ rest)) (.placeholder name :: ps)
  /-- A colon before anything else is an ordinary character. -/
  | colon {rest : List Char} {ps : List Piece} :
      rest.head? ≠ some ':' → EndsName rest → Lexes rest ps →
        Lexes (':' :: rest) (.verbatim ':' :: ps)
  | character {c : Char} {rest : List Char} {ps : List Piece} :
      c ≠ ':' → ¬IsQuote c → Lexes rest ps → Lexes (c :: rest) (.verbatim c :: ps)

@[simp] theorem endsName_nil : EndsName [] := by simp [EndsName]

theorem endsName_cons {c : Char} {rest : List Char} :
    EndsName (c :: rest) ↔ isNameCharacter c = false := by
  simp [EndsName]

/-- A text that does not go on with a name does not do so when more is put behind it. -/
theorem EndsName.append {cs rest : List Char} (h : EndsName cs) (hrest : EndsName rest) :
    EndsName (cs ++ rest) := by
  cases cs with
  | nil => exact hrest
  | cons c cs => exact endsName_cons.2 (endsName_cons.1 h)

@[simp] theorem verbatim_nil : verbatim [] = [] := rfl

@[simp] theorem verbatim_cons (c : Char) (cs : List Char) :
    verbatim (c :: cs) = .verbatim c :: verbatim cs := rfl

@[simp] theorem verbatim_append (cs ds : List Char) :
    verbatim (cs ++ ds) = verbatim cs ++ verbatim ds :=
  List.map_append

/-! ### What the scanner does with a form -/

namespace ScanState

@[simp] theorem pieces_nil (s : ScanState) : s.pieces [] = s.finish := rfl

theorem pieces_cons (s : ScanState) (c : Char) (rest : List Char) :
    s.pieces (c :: rest) = (s.step c).2 ++ (s.step c).1.pieces rest := rfl

/-- A quotation is taken up to its closing mark. -/
theorem pieces_quoted {mark : Char} {body : List Char} (h : mark ∉ body) (rest : List Char) :
    (quoted mark).pieces (body ++ mark :: rest) = verbatim (body ++ [mark]) ++ plain.pieces rest := by
  induction body with
  | nil => simp [pieces_cons, step]
  | cons c body ih =>
    obtain ⟨hne, hbody⟩ : mark ≠ c ∧ mark ∉ body := by simpa using h
    rw [List.cons_append, pieces_cons, step, if_neg (Ne.symm hne), ih hbody]
    rfl

/-- A quotation without a closing mark takes all the rest. -/
theorem pieces_quoted_open {mark : Char} {body : List Char} (h : mark ∉ body) :
    (quoted mark).pieces body = verbatim body := by
  induction body with
  | nil => rfl
  | cons c body ih =>
    obtain ⟨hne, hbody⟩ : mark ≠ c ∧ mark ∉ body := by simpa using h
    rw [pieces_cons, step, if_neg (Ne.symm hne), ih hbody]
    rfl

theorem step_plain_quote {mark : Char} (h : IsQuote mark) :
    plain.step mark = (quoted mark, [.verbatim mark]) := by
  rcases h with rfl | rfl <;> rfl

theorem step_plain_other {c : Char} (hc : c ≠ ':') (hq : ¬IsQuote c) :
    plain.step c = (plain, [.verbatim c]) := by
  rw [step, start, if_neg hc, if_neg (show ¬(c = '\'' ∨ c = '"') from hq)]

theorem step_name_ends {c : Char} (h : isNameCharacter c = false) (taken : List Char) :
    (name taken).step c = ((start c).1, .placeholder taken :: (start c).2) := by
  rw [step, if_neg (by rw [h]; decide)]

theorem step_colon_ends {c : Char} (hc : c ≠ ':') (h : isNameCharacter c = false) :
    colon.step c = ((start c).1, .verbatim ':' :: (start c).2) := by
  rw [step, if_neg hc, if_neg (by rw [h]; decide)]

/-- A name is taken up to the first character that cannot be part of it. -/
theorem pieces_name {cs : List Char} (hcs : ∀ c ∈ cs, isNameCharacter c = true)
    {rest : List Char} (hrest : EndsName rest) (taken : List Char) :
    (name taken).pieces (cs ++ rest) = .placeholder (taken ++ cs) :: plain.pieces rest := by
  induction cs generalizing taken with
  | nil =>
    cases rest with
    | nil => simp [finish]
    | cons d rest =>
      rw [List.nil_append, List.append_nil, pieces_cons, step_name_ends (endsName_cons.1 hrest)]
      rfl
  | cons c cs ih =>
    obtain ⟨hc, hcs⟩ := List.forall_mem_cons.1 hcs
    rw [List.cons_append, pieces_cons, step, if_pos hc, ih hcs]
    simp

/-- A colon is part of a placeholder only if a character of a name follows. -/
theorem pieces_colon {rest : List Char} (hcolon : rest.head? ≠ some ':') (hrest : EndsName rest) :
    colon.pieces rest = .verbatim ':' :: plain.pieces rest := by
  cases rest with
  | nil => rfl
  | cons d rest =>
    have hne : d ≠ ':' := by simpa using hcolon
    rw [pieces_cons, step_colon_ends hne (endsName_cons.1 hrest)]
    rfl

end ScanState

/-! ### The forms and the scanner -/

open ScanState

/-- The scanner finds the pieces that the forms give. -/
theorem Lexes.pieces_eq {cs : List Char} {ps : List Piece} (h : Lexes cs ps) :
    plain.pieces cs = ps := by
  induction h with
  | nil => rfl
  -- Every form brings the scanner back to the plain state, where the rest is read.
  | quotation hmark hbody _ ih =>
    rw [pieces_cons, step_plain_quote hmark, pieces_quoted hbody, ih]
    rfl
  | openQuotation hmark hbody =>
    rw [pieces_cons, step_plain_quote hmark, pieces_quoted_open hbody]
    rfl
  | cast _ ih => exact congrArg (verbatim [':', ':'] ++ ·) ih
  | @placeholder name rest ps hne hname hrest _ ih =>
    obtain ⟨c, cs, rfl⟩ := List.exists_cons_of_ne_nil hne
    obtain ⟨hc, hcs⟩ := List.forall_mem_cons.1 hname
    -- The scanner looks for a second colon first, and a name has none.
    have hcolon : c ≠ ':' := by
      rintro rfl
      exact absurd hc (by decide)
    have hstep : ScanState.colon.step c = (ScanState.name [c], []) := by
      rw [step, if_neg hcolon, if_pos hc]
    show ScanState.colon.pieces (c :: (cs ++ rest)) = _
    rw [pieces_cons, hstep, List.nil_append, pieces_name hcs hrest, ih]
    rfl
  | colon hcolon hrest _ ih =>
    show ScanState.colon.pieces _ = _
    rw [pieces_colon hcolon hrest, ih]
  | character hc hq _ ih =>
    rw [pieces_cons, step_plain_other hc hq, ih]
    rfl

/-- The characters of a name at the front of a text, and what follows them. -/
theorem exists_name_append (cs : List Char) :
    ∃ name rest, cs = name ++ rest ∧ (∀ c ∈ name, isNameCharacter c = true) ∧ EndsName rest := by
  refine ⟨cs.takeWhile isNameCharacter, cs.dropWhile isNameCharacter,
    List.takeWhile_append_dropWhile.symm, ?_, ?_⟩
  · intro c hc
    have h := List.all_takeWhile (l := cs) (p := isNameCharacter)
    exact List.all_eq_true.1 h c hc
  · intro c hc
    have h := List.head?_dropWhile_not isNameCharacter cs
    rw [Option.mem_def.1 hc] at h
    simpa using h

/-- Every text can be cut into pieces. -/
theorem exists_lexes (cs : List Char) : ∃ ps, Lexes cs ps := by
  -- A form takes at least one character, so the rest is always shorter.
  induction hn : cs.length using Nat.strongRecOn generalizing cs with
  | ind n ih =>
  subst hn
  cases cs with
  | nil => exact ⟨[], .nil⟩
  | cons c rest =>
    have shorter : ∀ tail : List Char, tail.length ≤ rest.length → ∃ ps, Lexes tail ps :=
      fun tail h => ih tail.length (by rw [List.length_cons]; omega) tail rfl
    by_cases hquote : IsQuote c
    · by_cases hmem : c ∈ rest
      · obtain ⟨body, tail, rfl, hbody⟩ := List.eq_append_cons_of_mem hmem
        obtain ⟨ps, hps⟩ := shorter tail (by simp only [List.length_append, List.length_cons]; omega)
        exact ⟨_, .quotation hquote hbody hps⟩
      · exact ⟨_, .openQuotation hquote hmem⟩
    · by_cases hcolon : c = ':'
      · subst hcolon
        obtain ⟨name, tail, rfl, hname, htail⟩ := exists_name_append rest
        obtain ⟨ps, hps⟩ := shorter tail (by rw [List.length_append]; omega)
        -- What follows a colon decides: a name, one more colon, or anything else.
        by_cases hempty : name = []
        · subst hempty
          by_cases hcast : tail.head? = some ':'
          · obtain ⟨tail', rfl⟩ := List.head?_eq_some_iff.1 hcast
            obtain ⟨ps, hps⟩ := shorter tail' (by simp)
            exact ⟨_, .cast hps⟩
          · exact ⟨_, .colon hcast htail hps⟩
        · exact ⟨_, .placeholder hempty hname htail hps⟩
      · obtain ⟨ps, hps⟩ := shorter rest (Nat.le_refl _)
        exact ⟨_, .character hcolon hquote hps⟩

/-- The forms give exactly the pieces that the scanner finds. -/
theorem lexes_iff {cs : List Char} {ps : List Piece} : Lexes cs ps ↔ ps = plain.pieces cs := by
  constructor
  · intro h
    exact h.pieces_eq.symm
  · rintro rfl
    obtain ⟨ps, h⟩ := exists_lexes cs
    exact h.pieces_eq ▸ h

/-- The pieces of an SQL text are those that the forms give. -/
theorem lexes_pieces (sql : String) : Lexes sql.toList (pieces sql) := lexes_iff.2 rfl

/-! ### The text outside quotations -/

/-- The characters outside quotations, for a text that is read inside a quotation or not. -/
def unquoted : Option Char → List Char → List Char
  | _, [] => []
  | none, c :: rest =>
    if c = '\'' ∨ c = '"' then unquoted (some c) rest else c :: unquoted none rest
  | some mark, c :: rest => if c = mark then unquoted none rest else unquoted (some mark) rest

theorem unquoted_quote {mark : Char} (h : IsQuote mark) (rest : List Char) :
    unquoted none (mark :: rest) = unquoted (some mark) rest := by
  rw [unquoted, if_pos (show mark = '\'' ∨ mark = '"' from h)]

theorem unquoted_other {c : Char} (h : ¬IsQuote c) (rest : List Char) :
    unquoted none (c :: rest) = c :: unquoted none rest := by
  rw [unquoted, if_neg (show ¬(c = '\'' ∨ c = '"') from h)]

/-- Nothing of a quotation is outside it. -/
theorem unquoted_quoted {mark : Char} {body : List Char} (h : mark ∉ body) (rest : List Char) :
    unquoted (some mark) (body ++ mark :: rest) = unquoted none rest := by
  induction body with
  | nil => rw [List.nil_append, unquoted, if_pos rfl]
  | cons c body ih =>
    obtain ⟨hne, hbody⟩ : mark ≠ c ∧ mark ∉ body := by simpa using h
    rw [List.cons_append, unquoted, if_neg (Ne.symm hne), ih hbody]

/-- Characters that open no quotation are all outside one. -/
theorem unquoted_append {cs : List Char} (h : ∀ c ∈ cs, ¬IsQuote c) (rest : List Char) :
    unquoted none (cs ++ rest) = cs ++ unquoted none rest := by
  induction cs with
  | nil => rfl
  | cons c cs ih =>
    obtain ⟨hc, hcs⟩ := List.forall_mem_cons.1 h
    rw [List.cons_append, unquoted_other hc, ih hcs]
    rfl

end TypedTable
