import Mathlib.Data.List.Forall2
import TypedTable.Proofs.Statement.Reading
import TypedTable.Text.Separated
/-!
# Templates

A `Template` is a statement as it is meant: characters of SQL text, and places where a value is sent
under a name. `Renders s t` says that a text `s` is read as the template `t`, whatever comes behind
it as long as that does not go on with a name. A text that stands for itself is `Inert`; nothing is
asked of what follows such a text.

Both are kept when texts are put together (`Inert.append`, `Renders.append`, `renders_separated`),
so what a statement is read as follows from what its parts are read as. The placeholders of a text
are the names of its template (`Renders.placeholders_eq`).
-/

namespace TypedTable

/-- A part of a statement as it is meant. -/
inductive Part
  | text (c : Char)
  /-- A place where a value is sent under a name. -/
  | value (name : String) (v : Value)
deriving DecidableEq

/-- The piece of the text that a part is written as. -/
def Part.piece : Part → Piece
  | text c => .verbatim c
  | value name _ => .placeholder name.toList

/-- What a server is to read for a part. -/
def Part.symbol : Part → Symbol
  | text c => .char c
  | value _ v => .value (some v)

/-- A statement as it is meant. -/
abbrev Template := List Part

namespace Template

/-- SQL text without a place for a value. -/
def ofText (s : String) : Template := s.toList.map .text

/-- The values that are sent, each with its name. -/
def bindings (t : Template) : List (String × Value) :=
  t.filterMap fun
    | .text _ => none
    | .value name v => some (name, v)

/-- The names under which values are sent. -/
def names (t : Template) : List String := entryNames t.bindings

/-- What a server is to read. -/
def symbols (t : Template) : List Symbol := t.map Part.symbol

/-- Templates with a text between any two of them. -/
def separated (sep : String) : List Template → Template
  | [] => []
  | [t] => t
  | t :: rest => t ++ ofText sep ++ separated sep rest

theorem mem_bindings {t : Template} {name : String} {v : Value} :
    (name, v) ∈ t.bindings ↔ Part.value name v ∈ t := by
  rw [bindings, List.mem_filterMap]
  constructor
  · rintro ⟨_ | ⟨name, v⟩, hp, hv⟩
    · exact (nomatch hv)
    · cases hv
      exact hp
  · intro hp
    exact ⟨_, hp, rfl⟩

@[simp] theorem bindings_append (t t' : Template) :
    bindings (t ++ t') = t.bindings ++ t'.bindings := List.filterMap_append

@[simp] theorem bindings_value (name : String) (v : Value) :
    bindings [.value name v] = [(name, v)] := rfl

@[simp] theorem bindings_ofText (s : String) : (ofText s).bindings = [] := by
  rw [ofText, bindings, List.filterMap_map]
  exact List.filterMap_eq_nil_iff.2 fun _ _ => rfl

/-- A separator sends no values. -/
@[simp] theorem bindings_separated (sep : String) (ts : List Template) :
    (separated sep ts).bindings = ts.flatMap bindings := by
  induction ts with
  | nil => rfl
  | cons t ts ih =>
    cases ts with
    | nil => exact (List.append_nil _).symm
    | cons t' ts =>
      show bindings (t ++ ofText sep ++ separated sep (t' :: ts)) = _
      rw [bindings_append, bindings_append, bindings_ofText, List.append_nil, ih]
      rfl

theorem map_piece_ofText (s : String) : (ofText s).map Part.piece = verbatim s.toList := by
  simp [ofText, verbatim, Part.piece]

theorem placeholders_map_piece (t : Template) : placeholders (t.map Part.piece) = t.names := by
  induction t with
  | nil => rfl
  | cons p t ih =>
    cases p with
    | text c => exact ih
    | value name v =>
      show String.ofList name.toList :: placeholders _ = name :: names t
      rw [ih, String.ofList_toList]

end Template

open Template

/-! ### Quotations and dollar signs -/

/-- A text that closes all its quotations and has no dollar sign outside them. -/
structure Balanced (s : String) : Prop where
  unquoted : ∀ rest : List Char,
    unquoted none (s.toList ++ rest) = unquoted none s.toList ++ unquoted none rest
  dollar : '$' ∉ TypedTable.unquoted none s.toList

theorem Balanced.append {s s' : String} (h : Balanced s) (h' : Balanced s') :
    Balanced (s ++ s') := by
  constructor
  · intro rest
    rw [String.toList_append, List.append_assoc, h.unquoted, h'.unquoted, h.unquoted,
      List.append_assoc]
  · rw [String.toList_append, h.unquoted, List.mem_append, not_or]
    exact ⟨h.dollar, h'.dollar⟩

/-- A text without quotation marks and dollar signs is balanced. -/
theorem balanced_of_forall {s : String} (h : ∀ c ∈ s.toList, ¬IsQuote c ∧ c ≠ '$') :
    Balanced s := by
  have hquote : ∀ c ∈ s.toList, ¬IsQuote c := fun c hc => (h c hc).1
  have hself : unquoted none s.toList = s.toList := by
    have happend := unquoted_append hquote []
    rwa [List.append_nil, unquoted, List.append_nil] at happend
  constructor
  · intro rest
    rw [unquoted_append hquote, hself]
  · rw [hself]
    intro hmem
    exact (h '$' hmem).2 rfl

/-! ### Texts that stand for themselves -/

/-- A text that is left as it is and leaves what follows as it is, wherever it stands outside
quotations. -/
structure Inert (s : String) : Prop extends Balanced s where
  lexes : ∀ {rest : List Char} {ps : List Piece}, Lexes rest ps →
    Lexes (s.toList ++ rest) (verbatim s.toList ++ ps)

/-- Whether the SQL text of a value that the server evaluates stands for itself. -/
def Value.IsInert (v : Value) : Prop := ∀ sql, v = .random sql → Inert sql

/-- Whether a character has no meaning of its own outside quotations. -/
def isOrdinary (c : Char) : Bool := c != ':' && c != '$' && c != '\'' && c != '"'

theorem isOrdinary_of_isNameCharacter {c : Char} (h : isNameCharacter c = true) :
    isOrdinary c = true := by
  have hne : ∀ d : Char, isNameCharacter d = false → c ≠ d := by
    rintro d hd rfl
    rw [h] at hd
    exact absurd hd (by decide)
  simp [isOrdinary, hne ':' (by decide), hne '$' (by decide), hne '\'' (by decide),
    hne '"' (by decide)]

/-- A text of ordinary characters stands for itself. -/
theorem inert_of_all {s : String} (h : s.toList.all isOrdinary = true) : Inert s := by
  have hs : ∀ c ∈ s.toList, c ≠ ':' ∧ c ≠ '$' ∧ ¬IsQuote c := by
    intro c hc
    have hc := List.all_eq_true.1 h c hc
    simp only [isOrdinary, Bool.and_eq_true, bne_iff_ne] at hc
    exact ⟨hc.1.1.1, hc.1.1.2, fun hq => hq.elim hc.1.2 hc.2⟩
  refine ⟨balanced_of_forall fun c hc => ⟨(hs c hc).2.2, (hs c hc).2.1⟩, fun hrest => ?_⟩
  exact .characters (fun c hc => ⟨(hs c hc).1, (hs c hc).2.2⟩) hrest

/-- A quotation stands for itself. -/
theorem inert_quotation {mark : Char} (hmark : IsQuote mark) {s : String} (h : mark ∉ s.toList) :
    Inert (String.singleton mark ++ s ++ String.singleton mark) := by
  have htext : (String.singleton mark ++ s ++ String.singleton mark).toList =
      mark :: (s.toList ++ [mark]) := by simp
  -- Nothing between the marks is outside the quotation, not even a dollar sign.
  have hunquoted : ∀ rest : List Char,
      unquoted none (mark :: (s.toList ++ mark :: rest)) = unquoted none rest := fun rest => by
    rw [unquoted_quote hmark, unquoted_quoted h]
  refine ⟨⟨fun rest => ?_, ?_⟩, fun {rest ps} hrest => ?_⟩
  · rw [htext, hunquoted, List.cons_append, List.append_assoc, List.singleton_append, hunquoted]
    rfl
  · rw [htext, hunquoted]
    exact List.not_mem_nil
  · rw [htext]
    have hlexes := Lexes.quotation hmark h hrest
    simpa using hlexes

theorem Inert.append {s s' : String} (h : Inert s) (h' : Inert s') : Inert (s ++ s') := by
  refine ⟨h.toBalanced.append h'.toBalanced, fun hrest => ?_⟩
  rw [String.toList_append, List.append_assoc, verbatim_append, List.append_assoc]
  exact h.lexes (h'.lexes hrest)

/-! ### Texts that are read as templates -/

/-- A text that is read as a template, unless a name goes on behind it. -/
structure Renders (s : String) (t : Template) : Prop extends Balanced s where
  lexes : ∀ {rest : List Char} {ps : List Piece}, EndsName rest → Lexes rest ps →
    Lexes (s.toList ++ rest) (t.map Part.piece ++ ps)

theorem Inert.renders {s : String} (h : Inert s) : Renders s (ofText s) := by
  refine ⟨h.toBalanced, fun _ hrest => ?_⟩
  rw [map_piece_ofText]
  exact h.lexes hrest

/-- A text that stands for itself may stand in front of any other. -/
theorem Inert.append_renders {s s' : String} {t : Template} (h : Inert s) (h' : Renders s' t) :
    Renders (s ++ s') (ofText s ++ t) := by
  refine ⟨h.toBalanced.append h'.toBalanced, fun hends hrest => ?_⟩
  rw [String.toList_append, List.append_assoc, List.map_append, List.append_assoc,
    map_piece_ofText]
  exact h.lexes (h'.lexes hends hrest)

/-- Two texts may be put together if the second one does not go on with a name. -/
theorem Renders.append {s s' : String} {t t' : Template} (h : Renders s t) (h' : Renders s' t')
    (hends : EndsName s'.toList) : Renders (s ++ s') (t ++ t') := by
  refine ⟨h.toBalanced.append h'.toBalanced, fun hrest hps => ?_⟩
  rw [String.toList_append, List.append_assoc, List.map_append, List.append_assoc]
  exact h.lexes (hends.append hrest) (h'.lexes hrest hps)

theorem renders_empty : Renders "" [] :=
  ⟨⟨fun _ => rfl, List.not_mem_nil⟩, fun _ hrest => hrest⟩

/-- A name behind a colon is read as a place for its value. -/
theorem renders_placeholder {name : String} (hne : name.toList ≠ [])
    (hname : ∀ c ∈ name.toList, isNameCharacter c = true) (v : Value) :
    Renders (":" ++ name) [.value name v] := by
  have htext : (":" ++ name).toList = ':' :: name.toList := by simp
  refine ⟨balanced_of_forall fun c hc => ?_, fun hends hrest => ?_⟩
  · rw [htext] at hc
    rcases List.mem_cons.1 hc with rfl | hc
    · exact ⟨by rintro (h | h) <;> exact absurd h (by decide), by decide⟩
    · refine ⟨not_isQuote_of_isNameCharacter (hname c hc), ?_⟩
      rintro rfl
      exact absurd (hname '$' hc) (by decide)
  · rw [htext]
    exact .placeholder hne hname hends hrest

theorem forall₂_renders {α : Type} {f : α → String} {g : α → Template} {l : List α}
    (h : ∀ a ∈ l, Renders (f a) (g a)) : List.Forall₂ Renders (l.map f) (l.map g) := by
  rw [List.forall₂_map_left_iff, List.forall₂_map_right_iff, List.forall₂_same]
  exact h

/-- Texts with a separator between them are read as their templates with the separator between
them. -/
theorem renders_separated {sep : String} (hsep : Inert sep) (hne : sep.toList ≠ [])
    (hends : EndsName sep.toList) {ss : List String} {ts : List Template}
    (h : List.Forall₂ Renders ss ts) :
    Renders (Text.separated sep ss) (Template.separated sep ts) := by
  induction h with
  | nil => exact renders_empty
  | @cons s t ss ts hst hrest ih =>
    cases hrest with
    | nil => exact hst
    | cons hst' hrest' =>
      obtain ⟨c, cs, hcs⟩ := List.exists_cons_of_ne_nil hne
      show Renders (s ++ sep ++ Text.separated sep (_ :: _)) (t ++ ofText sep ++ _)
      rw [String.append_assoc, List.append_assoc]
      -- The separator ends the name that the first text may end with.
      refine hst.append (hsep.append_renders ih) ?_
      rw [String.toList_append, hcs]
      rw [hcs] at hends
      exact endsName_cons.2 (endsName_cons.1 hends)

/-- Texts in a row that each stand behind a space are read as their templates. -/
theorem renders_join {ss : List String} {ts : List Template} (h : List.Forall₂ Renders ss ts) :
    Renders (String.join (ss.map (" " ++ ·))) (ts.flatMap (ofText " " ++ ·)) ∧
      EndsName (String.join (ss.map (" " ++ ·))).toList := by
  induction h with
  | nil => exact ⟨renders_empty, endsName_nil⟩
  | @cons s t ss ts hst _ ih =>
    rw [List.map_cons, String.join_cons, List.flatMap_cons]
    -- The space of the next text ends the name that this one may end with.
    have hspace : Inert " " := inert_of_all (by decide)
    refine ⟨(hspace.append_renders hst).append ih.1 ih.2, ?_⟩
    rw [String.append_assoc, String.toList_append]
    exact endsName_cons.2 rfl

/-! ### Whole statements -/

/-- A text that is read as a template has the pieces of the template. -/
theorem Renders.pieces_eq {s : String} {t : Template} (h : Renders s t) :
    pieces s = t.map Part.piece := by
  have hlexes := h.lexes endsName_nil .nil
  rw [List.append_nil, List.append_nil] at hlexes
  exact hlexes.pieces_eq

/-- The placeholders of a statement are the names of its template. -/
theorem Renders.placeholders_eq {s : String} {t : Template} (h : Renders s t) :
    placeholders (pieces s) = t.names := by
  rw [h.pieces_eq, placeholders_map_piece]

end TypedTable
