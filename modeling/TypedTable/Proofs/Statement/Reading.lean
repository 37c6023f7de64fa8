import Mathlib.Data.List.Basic
import TypedTable.Proofs.Statement.Numbering
/-!
# Texts with numbered parameters

A server that gets a text with numbers reads a dollar sign with the digits behind it as a parameter,
except in quotations. `MarkState.marks` cuts a text in that way; with the values in place of the
numbers the result is `Positional.read`, which is what the server is told to do.

`marks_flatMap_render` says that the numbers that are written for placeholders are the ones that
are read, if the text had no dollar sign of its own outside quotations. Two readings follow: the
names put back give the text as it was (`restore_numberedText`), and what the server reads is the
text with the value of its name at every placeholder (`read_of_positional`).
-/

namespace TypedTable

/-- A part of a text with numbers. -/
inductive Mark
  /-- A character that stands for itself. -/
  | verbatim (c : Char)
  /-- The parameter with this number. -/
  | parameter (number : Nat)
deriving DecidableEq

/-- What the characters read so far say about the next one. -/
inductive MarkState
  | plain
  /-- Inside quotes that this character closes. -/
  | quoted (mark : Char)
  /-- Behind a dollar sign and these digits. -/
  | number (digits : List Char)
deriving DecidableEq

namespace MarkState

/-- Reads a character outside quotes that is no digit of a number. -/
def start (c : Char) : MarkState × List Mark :=
  if c = '$' then (number [], [])
  else if c = '\'' ∨ c = '"' then (quoted c, [.verbatim c])
  else (plain, [.verbatim c])

/-- A dollar sign with its digits; without any it stands for itself. -/
def parameter : List Char → Mark
  | [] => .verbatim '$'
  | digits => .parameter (Nat.ofDigitChars 10 digits 0)

/-- Reads one character and gives the parts that are complete with it. -/
def step : MarkState → Char → MarkState × List Mark
  | plain, c => start c
  | quoted mark, c => (if c = mark then plain else quoted mark, [.verbatim c])
  | number digits, c =>
    if c.isDigit then (number (digits ++ [c]), [])
    else ((start c).1, parameter digits :: (start c).2)

/-- The part that the end of the text completes. -/
def finish : MarkState → List Mark
  | plain | quoted _ => []
  | number digits => [parameter digits]

/-- The parts of a text that is read from a state on. -/
def marks : MarkState → List Char → List Mark
  | s, [] => s.finish
  | s, c :: rest => (s.step c).2 ++ marks (s.step c).1 rest

theorem marks_cons (s : MarkState) (c : Char) (rest : List Char) :
    s.marks (c :: rest) = (s.step c).2 ++ (s.step c).1.marks rest := rfl

theorem step_plain_quote {mark : Char} (h : IsQuote mark) :
    plain.step mark = (quoted mark, [.verbatim mark]) := by
  rcases h with rfl | rfl <;> rfl

theorem step_plain_other {c : Char} (hc : c ≠ '$') (hq : ¬IsQuote c) :
    plain.step c = (plain, [.verbatim c]) := by
  rw [step, start, if_neg hc, if_neg (show ¬(c = '\'' ∨ c = '"') from hq)]

/-- A quotation is taken up to its closing mark. -/
theorem marks_quoted {mark : Char} {body : List Char} (h : mark ∉ body) (rest : List Char) :
    (quoted mark).marks (body ++ mark :: rest) =
      (body ++ [mark]).map Mark.verbatim ++ plain.marks rest := by
  induction body with
  | nil => simp [marks_cons, step]
  | cons c body ih =>
    obtain ⟨hne, hbody⟩ : mark ≠ c ∧ mark ∉ body := by simpa using h
    rw [List.cons_append, marks_cons, step, if_neg (Ne.symm hne), ih hbody]
    rfl

/-- A quotation without a closing mark takes all the rest. -/
theorem marks_quoted_open {mark : Char} {body : List Char} (h : mark ∉ body) :
    (quoted mark).marks body = body.map Mark.verbatim := by
  induction body with
  | nil => rfl
  | cons c body ih =>
    obtain ⟨hne, hbody⟩ : mark ≠ c ∧ mark ∉ body := by simpa using h
    rw [marks_cons, step, if_neg (Ne.symm hne), ih hbody]
    rfl

/-- The digits of a number are taken up to the first character that is none. -/
theorem marks_number {digits : List Char} (hdigits : ∀ c ∈ digits, c.isDigit = true)
    {rest : List Char} (hrest : ∀ c ∈ rest.head?, c.isDigit = false) (taken : List Char) :
    (number taken).marks (digits ++ rest) = parameter (taken ++ digits) :: plain.marks rest := by
  induction digits generalizing taken with
  | nil =>
    cases rest with
    | nil => simp [marks, finish]
    | cons d rest =>
      have hd : d.isDigit = false := hrest d rfl
      have hstep : (number taken).step d = ((start d).1, parameter taken :: (start d).2) := by
        rw [step, if_neg (by rw [hd]; decide)]
      rw [List.nil_append, List.append_nil, marks_cons, hstep]
      rfl
  | cons c digits ih =>
    obtain ⟨hc, hdigits⟩ := List.forall_mem_cons.1 hdigits
    rw [List.cons_append, marks_cons, step, if_pos hc, ih hdigits]
    simp

/-- A number that is written out is read as that parameter. -/
theorem marks_natural (n : Nat) {rest : List Char}
    (hrest : ∀ c ∈ rest.head?, c.isDigit = false) :
    plain.marks ('$' :: (Text.natural n ++ rest)) = .parameter n :: plain.marks rest := by
  have hdigits : ∀ c ∈ Text.natural n, c.isDigit = true := fun c hc =>
    Nat.isDigit_of_mem_toDigits (by decide) (by decide) hc
  obtain ⟨d, ds, hnat⟩ := List.exists_cons_of_ne_nil (Nat.toDigits_ne_nil (n := n) (b := 10))
  show (number []).marks (Text.natural n ++ rest) = _
  rw [marks_number hdigits hrest, List.nil_append]
  have hvalue : parameter (Text.natural n) = .parameter (Nat.ofDigitChars 10 (Text.natural n) 0) := by
    rw [Text.natural, hnat]
    rfl
  rw [hvalue, Text.natural, Nat.ofDigitChars_ten_toDigits]

end MarkState

/-! ### What is written for the pieces -/

open Statement

/-- What a server finds where a piece was. -/
def Piece.mark (names : List String) : Piece → Mark
  | .verbatim c => .verbatim c
  | .placeholder name => .parameter (names.idxOf (String.ofList name) + 1)

/-- The first character of the text with numbers is that of the text, unless the text begins with a
placeholder, where it is a dollar sign. -/
theorem Lexes.head?_flatMap_render {cs : List Char} {ps : List Piece} (h : Lexes cs ps)
    (names : List String) :
    (ps.flatMap (render names)).head? = cs.head? ∨
      cs.head? = some ':' ∧ (ps.flatMap (render names)).head? = some '$' := by
  cases h with
  | placeholder => exact .inr ⟨rfl, rfl⟩
  | _ => exact .inl rfl

/-- Where a name ends in the text, it also ends in the text with numbers. -/
theorem Lexes.endsName_flatMap_render {cs : List Char} {ps : List Piece} (h : Lexes cs ps)
    (hcs : EndsName cs) (names : List String) : EndsName (ps.flatMap (render names)) := by
  intro c hc
  rcases h.head?_flatMap_render names with heq | ⟨-, heq⟩
  · exact hcs c (heq ▸ hc)
  · rw [heq, Option.mem_some_iff] at hc
    subst hc
    rfl

/-- No colon comes up in front of the text with numbers. -/
theorem Lexes.head?_flatMap_render_ne_colon {cs : List Char} {ps : List Piece} (h : Lexes cs ps)
    (hcs : cs.head? ≠ some ':') (names : List String) :
    (ps.flatMap (render names)).head? ≠ some ':' := by
  rcases h.head?_flatMap_render names with heq | ⟨heq, -⟩
  · rw [heq]
    exact hcs
  · exact absurd heq hcs

theorem flatMap_render_verbatim (names : List String) (cs : List Char) :
    (verbatim cs).flatMap (render names) = cs := by
  induction cs with
  | nil => rfl
  | cons c cs ih => exact congrArg (c :: ·) ih

/-- A character of a name is not a quotation mark. -/
theorem not_isQuote_of_isNameCharacter {c : Char} (h : isNameCharacter c = true) : ¬IsQuote c := by
  rintro (rfl | rfl) <;> exact absurd h (by decide)

theorem isNameCharacter_of_isDigit {c : Char} (h : c.isDigit = true) : isNameCharacter c = true := by
  simp [isNameCharacter, Char.isAlphanum, h]

theorem isNameCharacter_of_mem_natural {n : Nat} {c : Char} (h : c ∈ Text.natural n) :
    isNameCharacter c = true :=
  isNameCharacter_of_isDigit (Nat.isDigit_of_mem_toDigits (by decide) (by decide) h)

/-- Characters that are neither colons nor quotation marks are pieces of their own. -/
theorem Lexes.characters {cs rest : List Char} {ps : List Piece}
    (h : ∀ c ∈ cs, c ≠ ':' ∧ ¬IsQuote c) (hrest : Lexes rest ps) :
    Lexes (cs ++ rest) (verbatim cs ++ ps) := by
  induction cs with
  | nil => exact hrest
  | cons c cs ih =>
    obtain ⟨hc, hcs⟩ := List.forall_mem_cons.1 h
    exact .character hc.1 hc.2 (ih hcs)

/-- The text with numbers has no placeholder left. -/
theorem Lexes.flatMap_render {cs : List Char} {ps : List Piece} (h : Lexes cs ps)
    (names : List String) :
    Lexes (ps.flatMap (render names)) (verbatim (ps.flatMap (render names))) := by
  induction h with
  | nil => exact .nil
  | @quotation mark body rest ps hmark hbody _ ih =>
    have h := Lexes.quotation hmark hbody ih
    rw [List.flatMap_append, flatMap_render_verbatim]
    simpa using h
  | openQuotation hmark hbody =>
    rw [flatMap_render_verbatim]
    exact .openQuotation hmark hbody
  | cast _ ih => exact .cast ih
  | @placeholder name rest ps _ _ _ _ ih =>
    -- A dollar sign and digits cannot begin a form of another kind.
    have hdigits : ∀ c ∈ '$' :: Text.natural (names.idxOf (String.ofList name) + 1),
        c ≠ ':' ∧ ¬IsQuote c := by
      intro c hc
      rcases List.mem_cons.1 hc with rfl | hc
      · exact ⟨by decide, by rintro (h | h) <;> exact absurd h (by decide)⟩
      · have hname := isNameCharacter_of_mem_natural hc
        refine ⟨?_, not_isQuote_of_isNameCharacter hname⟩
        rintro rfl
        exact absurd hname (by decide)
    rw [List.flatMap_cons, verbatim_append]
    exact .characters hdigits ih
  -- Behind a lone colon no name and no colon comes up, since numbers begin with a dollar sign.
  | colon hcolon hrest h ih =>
    exact .colon (h.head?_flatMap_render_ne_colon hcolon names)
      (h.endsName_flatMap_render hrest names) ih
  | character hc hq _ ih => exact .character hc hq ih

/-- The numbers that are written are the numbers that are read, if no dollar sign was in the text
outside quotations. -/
theorem Lexes.marks_flatMap_render {cs : List Char} {ps : List Piece} (h : Lexes cs ps)
    (hdollar : '$' ∉ unquoted none cs) (names : List String) :
    MarkState.plain.marks (ps.flatMap (render names)) = ps.map (Piece.mark names) := by
  have hverbatim : ∀ cs : List Char,
      (verbatim cs).map (Piece.mark names) = cs.map Mark.verbatim := by
    intro cs
    simp [verbatim, Piece.mark]
  induction h with
  | nil => rfl
  -- Dollar signs in quotations are not read as numbers; those outside are excluded.
  | @quotation mark body rest ps hmark hbody _ ih =>
    rw [unquoted_quote hmark, unquoted_quoted hbody] at hdollar
    rw [List.flatMap_append, flatMap_render_verbatim, List.map_append, hverbatim, List.cons_append,
      List.append_assoc, List.singleton_append, MarkState.marks_cons,
      MarkState.step_plain_quote hmark, MarkState.marks_quoted hbody, ih hdollar]
    rfl
  | openQuotation hmark hbody =>
    rw [flatMap_render_verbatim, hverbatim, MarkState.marks_cons, MarkState.step_plain_quote hmark,
      MarkState.marks_quoted_open hbody]
    rfl
  | cast _ ih =>
    rw [List.flatMap_append, flatMap_render_verbatim, List.map_append, hverbatim]
    have hdollar' : '$' ∉ unquoted none _ := fun h =>
      hdollar (List.mem_cons_of_mem _ (List.mem_cons_of_mem _ h))
    exact congrArg ([':', ':'].map Mark.verbatim ++ ·) (ih hdollar')
  | @placeholder name rest ps _ hname hrest hlexes ih =>
    have hquotes : ∀ c ∈ name, ¬IsQuote c := fun c hc => not_isQuote_of_isNameCharacter (hname c hc)
    -- A name is no quotation, so what is behind it is outside quotations too.
    have hdollar' : '$' ∉ unquoted none rest := by
      intro h
      apply hdollar
      rw [unquoted_other (by rintro (h | h) <;> exact absurd h (by decide)),
        unquoted_append hquotes]
      exact List.mem_cons_of_mem _ (List.mem_append_right _ h)
    -- The number ends where the name ended: no digit can follow.
    have hdigit : ∀ c ∈ (ps.flatMap (render names)).head?, c.isDigit = false := by
      intro c hc
      have h := hlexes.endsName_flatMap_render hrest names c hc
      cases hd : c.isDigit with
      | false => rfl
      | true => exact absurd (isNameCharacter_of_isDigit hd) (by rw [h]; decide)
    rw [List.flatMap_cons, render, List.cons_append, MarkState.marks_natural _ hdigit, ih hdollar']
    rfl
  | colon _ _ _ ih =>
    exact congrArg (.verbatim ':' :: ·) (ih (fun h => hdollar (List.mem_cons_of_mem _ h)))
  | @character c rest ps hc hq _ ih =>
    rw [unquoted_other hq, List.mem_cons, not_or] at hdollar
    rw [List.flatMap_cons, render, List.singleton_append, MarkState.marks_cons,
      MarkState.step_plain_other (Ne.symm hdollar.1) hq, ih hdollar.2]
    rfl

/-! ### Names and values in place of the numbers -/

/-- The member of a list with this number, counted from one. -/
def numberedMember {α : Type} (l : List α) : Nat → Option α
  | 0 => none
  | k + 1 => l[k]?

/-- The placeholder of a parameter whose name is known. -/
def Mark.named (names : List String) : Mark → List Char
  | .verbatim c => [c]
  | .parameter k =>
    match numberedMember names k with
    | some name => ':' :: name.toList
    | none => '$' :: Text.natural k

/-- The text with placeholders in place of the numbers that have a name. -/
def restore (names : List String) (cs : List Char) : List Char :=
  (MarkState.plain.marks cs).flatMap (Mark.named names)

/-- What a server is told at one place: a character, or the value to be taken there. -/
inductive Symbol
  | char (c : Char)
  /-- The value of a parameter, if one was sent for it. -/
  | value (v : Option Value)
deriving DecidableEq

/-- A part of a text with numbers, with the value of its number. -/
def Mark.symbol (values : List Value) : Mark → Symbol
  | .verbatim c => .char c
  | .parameter k => .value (numberedMember values k)

/-- What a server reads: the text with the values in place of the numbers. -/
def Positional.read (p : Positional) : List Symbol :=
  (MarkState.plain.marks p.sql.toList).map (Mark.symbol p.values)

/-- A piece with the value of its name. -/
def Piece.symbol (params : Params) : Piece → Symbol
  | .verbatim c => .char c
  | .placeholder name => .value (params.get? (String.ofList name))

/-- A piece spelled out again. -/
def Piece.spelled : Piece → List Char
  | .verbatim c => [c]
  | .placeholder name => ':' :: name

theorem flatMap_spelled_verbatim (cs : List Char) : (verbatim cs).flatMap Piece.spelled = cs := by
  induction cs with
  | nil => rfl
  | cons c cs ih => exact congrArg (c :: ·) ih

/-- The pieces spelled out again are the text. -/
theorem Lexes.flatMap_spelled {cs : List Char} {ps : List Piece} (h : Lexes cs ps) :
    ps.flatMap Piece.spelled = cs := by
  induction h with
  | nil => rfl
  | quotation _ _ _ ih =>
    rw [List.flatMap_append, flatMap_spelled_verbatim, ih]
    simp
  | openQuotation => exact flatMap_spelled_verbatim _
  | cast _ ih => exact congrArg ([':', ':'] ++ ·) ih
  | @placeholder name _ _ _ _ _ _ ih => exact congrArg (fun rest => ':' :: (name ++ rest)) ih
  | colon _ _ _ ih => exact congrArg (':' :: ·) ih
  | @character c _ _ _ _ _ ih => exact congrArg (c :: ·) ih

/-- The number of a listed name leads back to the name. -/
theorem numberedMember_idxOf {names : List String} {name : String} (h : name ∈ names) :
    numberedMember names (names.idxOf name + 1) = some name :=
  List.getElem?_idxOf h

theorem mem_placeholders {ps : List Piece} {name : List Char} (h : Piece.placeholder name ∈ ps) :
    String.ofList name ∈ placeholders ps :=
  List.mem_filterMap.2 ⟨_, h, rfl⟩

/-- With the names put back, the text with numbers is the text as it was. -/
theorem Lexes.restore_flatMap_render {cs : List Char} {ps : List Piece} (h : Lexes cs ps)
    (hdollar : '$' ∉ unquoted none cs) {names : List String}
    (hnames : ∀ name ∈ placeholders ps, name ∈ names) :
    restore names (ps.flatMap (render names)) = cs := by
  -- Piece by piece: the number of a name leads back to the name.
  have hpiece : ∀ p ∈ ps, Mark.named names (Piece.mark names p) = p.spelled := by
    rintro (c | name) hp
    · rfl
    · show (match numberedMember names (names.idxOf (String.ofList name) + 1) with
        | some name => ':' :: name.toList
        | none => _) = ':' :: name
      rw [numberedMember_idxOf (hnames _ (mem_placeholders hp))]
      simp
  rw [restore, h.marks_flatMap_render hdollar, List.flatMap_map]
  exact (List.flatMap_congr hpiece).trans h.flatMap_spelled

/-- A value found by the number of a listed name is the value of the name. -/
theorem numberedMember_values {names : List String} {values : List Value} {params : Params}
    (h : values.map some = names.map params.get?) {name : String} (hname : name ∈ names) :
    numberedMember values (names.idxOf name + 1) = params.get? name := by
  have hmap := congrArg (·[names.idxOf name]?) h
  have hmember : names[names.idxOf name]? = some name := numberedMember_idxOf hname
  simp only [List.getElem?_map, hmember, Option.map_some] at hmap
  show values[names.idxOf name]? = _
  cases hv : values[names.idxOf name]? with
  | none => simp [hv] at hmap
  | some v => simpa [hv] using hmap

/-- What the server reads is the text with the value of its name at every placeholder. -/
theorem read_of_positional {s : Statement} {p : Positional} (h : s.positional = .ok p)
    (hdollar : '$' ∉ unquoted none s.sql.toList) :
    p.read = (pieces s.sql).map (Piece.symbol s.params) := by
  rw [positional_eq] at h
  cases hfind : (placeholders (pieces s.sql)).find? s.isUnbound with
  | some name =>
    rw [hfind] at h
    exact (nomatch h)
  | none =>
    rw [hfind] at h
    cases h
    -- Piece by piece: the number of a name leads to the value of the name.
    have hbound := isSome_of_find?_eq_none hfind
    have hpiece : ∀ p ∈ pieces s.sql,
        Mark.symbol (s.names.filterMap s.params.get?) (Piece.mark s.names p) =
          p.symbol s.params := by
      rintro (c | name) hp
      · rfl
      · exact congrArg Symbol.value (numberedMember_values (map_some_filterMap hbound)
          (mem_names.2 (mem_placeholders hp)))
    rw [Positional.read, String.toList_ofList, numberedText,
      (lexes_pieces s.sql).marks_flatMap_render hdollar, List.map_map]
    exact List.map_congr_left hpiece

end TypedTable
