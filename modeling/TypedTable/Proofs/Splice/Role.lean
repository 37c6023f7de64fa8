import TypedTable.Proofs.Splice.Lexeme
/-!
# Roles of lexemes

Whether a word is a connective depends on where it stands: inside brackets, inside a CASE, behind a
point or in the range of a BETWEEN it is none. `roles` says of every lexeme of a text what it is for
the condition that the text is, and has an answer only if all that is opened in the text is closed
in it.

Roles do not change when a connective and another text are put behind a text (`roles_join`). In
brackets all lexemes become parts of one operand (`roles_brackets`).
-/

namespace TypedTable

/-- What a lexeme is for the condition that it stands in. -/
inductive Role
  | join (c : Connective)
  | not
  | compare (c : Comparator)
  /-- A test that binds less strongly than a comparison. -/
  | test
  /-- A part of what is compared, tested or called. -/
  | operand (l : Lexeme)
deriving DecidableEq

/-- What is opened and has to be closed. -/
inductive Opening
  | bracket
  | index
  | case
deriving DecidableEq

/-- What stands in front of a lexeme, as far as it matters. -/
inductive Before
  | number
  /-- A point that is no part of a number. -/
  | point
  | other
deriving DecidableEq

/-- Where a lexeme stands. -/
structure Place where
  /-- What is open, from the inside out. -/
  opened : List Opening
  /-- Whether a BETWEEN that is not inside of anything waits for its AND. -/
  range : Bool
  before : Before
deriving DecidableEq

namespace Place

/-- The place in front of a condition. -/
def start : Place := ⟨[], false, .other⟩

/-- Goes on with a lexeme that opens and closes nothing. -/
def keep (p : Place) (before : Before) (r : Role) : Option (Place × Role) :=
  some ({ p with before := before }, r)

/-- Goes inside. -/
def enter (p : Place) (o : Opening) (l : Lexeme) : Option (Place × Role) :=
  some ({ p with opened := o :: p.opened, before := .other }, .operand l)

/-- Goes outside of what was opened last. -/
def exit (p : Place) (o : Opening) (l : Lexeme) : Option (Place × Role) :=
  match p.opened with
  | [] => none
  | last :: rest =>
    if last = o then some ({ p with opened := rest, before := .other }, .operand l) else none

/-- The operators that compare. -/
def comparators : List (String × Comparator) :=
  [("=", .eq), ("<>", .ne), ("!=", .ne), ("<", .lt), (">", .gt), ("<=", .le), (">=", .ge)]

/-- Reads a word that is not inside of anything. -/
def keyword (p : Place) (w : String) : Option (Place × Role) :=
  if w = "AND" then
    if p.range then some ({ p with range := false, before := .other }, .operand (.word w))
    else p.keep .other (.join .and)
  else if w = "OR" then if p.range then none else p.keep .other (.join .or)
  else if w = "NOT" then p.keep .other .not
  else if w = "BETWEEN" then
    if p.range then none
    else some ({ p with range := true, before := .other }, .operand (.word w))
  else if w = "IS" ∨ w = "ISNULL" ∨ w = "NOTNULL" then p.keep .other .test
  else p.keep .other (.operand (.word w))

/-- Reads one lexeme. -/
def step (p : Place) (l : Lexeme) : Option (Place × Role) :=
  match l with
  | .mark c =>
    if c = '(' then p.enter .bracket l
    else if c = ')' then p.exit .bracket l
    else if c = '[' then p.enter .index l
    else if c = ']' then p.exit .index l
    else if c = '.' then p.keep (if p.before = .number then .other else .point) (.operand l)
    else p.keep .other (.operand l)
  | .word w =>
    -- Behind a point every word is a name.
    if p.before = .point then p.keep .other (.operand l)
    else if w = "CASE" then p.enter .case l
    else if w = "END" then p.exit .case l
    else if p.opened = [] then p.keyword w
    else p.keep .other (.operand l)
  | .operator o =>
    match if p.opened = [] then comparators.lookup o else none with
    | some c => p.keep .other (.compare c)
    | none => p.keep .other (.operand l)
  | .number _ => p.keep .number (.operand l)
  | .name _ | .literal _ | .placeholder _ => p.keep .other (.operand l)

/-- Reads lexemes one after the other. -/
def run : Place → List Lexeme → Option (Place × List Role)
  | p, [] => some (p, [])
  | p, l :: ls => (p.step l).bind fun q => (run q.1 ls).map (Prod.map id (q.2 :: ·))

theorem run_cons {p q : Place} {l : Lexeme} {r : Role} (h : p.step l = some (q, r))
    (ls : List Lexeme) : p.run (l :: ls) = (q.run ls).map (Prod.map id (r :: ·)) := by
  rw [run, h]
  rfl

theorem run_append (p : Place) (ls ms : List Lexeme) :
    p.run (ls ++ ms) = (p.run ls).bind fun q => (q.1.run ms).map (Prod.map id (q.2 ++ ·)) := by
  induction ls generalizing p with
  | nil =>
    rw [List.nil_append, run, Option.bind_some]
    exact Option.map_id'.symm
  | cons l ls ih =>
    cases hl : p.step l with
    | none => simp [run, hl]
    | some q =>
      rw [List.cons_append, run_cons hl, run_cons hl, ih]
      cases q.1.run ls with
      | none => rfl
      | some q' => exact Option.map_map ..

/-- Whether a condition can end here. -/
def isClosed (p : Place) : Bool := p.opened = [] ∧ p.range = false ∧ p.before ≠ .point

end Place

/-- The roles of the lexemes of a text. -/
def roles (text : String) : Option (List Role) :=
  (lexemes text).bind fun ls => (Place.start.run ls).bind fun (p, rs) =>
    if p.isClosed then some rs else none

/-- A range, a CASE and a point hide connectives. -/
example : (roles "a BETWEEN 1 AND 2 AND CASE WHEN b OR c THEN d END OR t.or").map
    (·.filterMap fun | .join c => some c | _ => none) = some [.and, .or] := by
  decide

theorem roles_eq_some {s : String} {rs : List Role} : roles s = some rs ↔
    ∃ ls p, lexemes s = some ls ∧ Place.start.run ls = some (p, rs) ∧ p.isClosed = true := by
  unfold roles
  constructor
  · intro h
    obtain ⟨ls, hls, h⟩ := Option.bind_eq_some_iff.1 h
    obtain ⟨⟨p, rs'⟩, hrun, h⟩ := Option.bind_eq_some_iff.1 h
    dsimp only at h
    split at h
    · next hclosed =>
      cases h
      exact ⟨ls, p, hls, hrun, hclosed⟩
    · exact (nomatch h)
  · rintro ⟨ls, p, hls, hrun, hclosed⟩
    rw [hls, Option.bind_some, hrun, Option.bind_some]
    exact if_pos hclosed

/-! ### Texts behind each other -/

/-- The lexeme of a comparison. -/
def Comparator.lexeme : Comparator → Lexeme
  | .like => .word "LIKE"
  | o => .operator o.sql

/-- The role of a comparison. A match of patterns binds more strongly than the others and is a part
of what these compare. -/
def Comparator.role : Comparator → Role
  | .like => .operand (.word "LIKE")
  | o => .compare o

namespace Place

theorem run_append_of_run {p q r : Place} {ls ms : List Lexeme} {rs rs' : List Role}
    (h : p.run ls = some (q, rs)) (h' : q.run ms = some (r, rs')) :
    p.run (ls ++ ms) = some (r, rs ++ rs') := by
  rw [run_append, h, Option.bind_some, h']
  rfl

/-- What is known of a place where a condition can end. -/
theorem eq_of_isClosed {p : Place} (h : p.isClosed = true) :
    ∃ before : Before, before ≠ .point ∧ p = ⟨[], false, before⟩ := by
  obtain ⟨opened, range, before⟩ := p
  obtain ⟨rfl, rfl, hbefore⟩ := of_decide_eq_true h
  exact ⟨before, hbefore, rfl⟩

/-- Behind a condition a word is read as in front of one. -/
theorem step_word {p : Place} (h : p.isClosed = true) {w : String} (hcase : w ≠ "CASE")
    (hend : w ≠ "END") : p.step (.word w) = start.keyword w := by
  obtain ⟨before, hbefore, rfl⟩ := eq_of_isClosed h
  show (if before = .point then _ else _) = _
  rw [if_neg hbefore, if_neg hcase, if_neg hend, if_pos rfl]
  rfl

/-- Behind a condition a connective joins it to another one. -/
theorem step_connective {p : Place} (h : p.isClosed = true) (c : Connective) :
    p.step (.word c.word) = some (start, .join c) := by
  rw [step_word h (by cases c <;> decide) (by cases c <;> decide)]
  cases c <;> rfl

/-- What is compared begins behind the comparison. -/
theorem step_comparator {p : Place} (h : p.isClosed = true) (o : Comparator) :
    p.step o.lexeme = some (start, o.role) := by
  cases o with
  | like => exact step_word h (by decide) (by decide)
  | eq | ne | lt | gt | le | ge =>
    obtain ⟨before, -, rfl⟩ := eq_of_isClosed h
    rfl

/-- What is tested ends in front of the test. -/
theorem step_is {p : Place} (h : p.isClosed = true) :
    p.step (.word "IS") = some (start, .test) :=
  step_word h (by decide) (by decide)

end Place

theorem lexesWhole_connective (c : Connective) :
    LexesWhole (" " ++ c.word ++ " ") [.word c.word] := by
  cases c <;> decide

theorem beginsLexeme_connective (c : Connective) : BeginsLexeme (" " ++ c.word ++ " ") := by
  cases c
  · exact ⟨' ', "OR ".toList, by decide, by decide⟩
  · exact ⟨' ', "AND ".toList, by decide, by decide⟩

/-- A lexeme behind which a condition starts has the roles of both texts around it. -/
theorem roles_between {s s' between : String} {rs rs' : List Role} {l : Lexeme} {r : Role}
    (h : roles s = some rs) (h' : roles s' = some rs') (hbegins : BeginsLexeme between)
    (hwhole : LexesWhole between [l])
    (hstep : ∀ {p : Place}, p.isClosed = true → p.step l = some (.start, r)) :
    roles (s ++ between ++ s') = some (rs ++ r :: rs') := by
  obtain ⟨ls, p, hls, hrun, hclosed⟩ := roles_eq_some.1 h
  obtain ⟨ls', p', hls', hrun', hclosed'⟩ := roles_eq_some.1 h'
  have hlexemes := (lexesWhole_append hls hbegins hwhole).append hls'
  have hbetween : p.run [l] = some (.start, [r]) := by
    rw [Place.run, hstep hclosed]
    rfl
  refine roles_eq_some.2 ⟨_, p', hlexemes, ?_, hclosed'⟩
  have hboth := Place.run_append_of_run (Place.run_append_of_run hrun hbetween) hrun'
  rwa [List.append_assoc rs] at hboth

theorem roles_compare (o : Comparator) {s s' : String} {rs rs' : List Role} (h : roles s = some rs)
    (h' : roles s' = some rs') :
    roles (s ++ (" " ++ o.sql ++ " ") ++ s') = some (rs ++ o.role :: rs') := by
  have hwhole : LexesWhole (" " ++ o.sql ++ " ") [o.lexeme] := by cases o <;> decide
  have hbegins : BeginsLexeme (" " ++ o.sql ++ " ") := by
    refine ⟨' ', (o.sql ++ " ").toList, ?_, by decide⟩
    rw [String.append_assoc, String.toList_append]
    rfl
  exact roles_between h h' hbegins hwhole fun hclosed => Place.step_comparator hclosed o

theorem roles_is {s s' : String} {rs rs' : List Role} (h : roles s = some rs)
    (h' : roles s' = some rs') : roles (s ++ " IS " ++ s') = some (rs ++ .test :: rs') :=
  roles_between h h' ⟨' ', "IS ".toList, rfl, by decide⟩ (by decide) Place.step_is

/-- A connective with a text on both sides has the roles of both texts around it. -/
theorem roles_join (c : Connective) {s s' : String} {rs rs' : List Role} (h : roles s = some rs)
    (h' : roles s' = some rs') :
    roles (s ++ (" " ++ c.word ++ " ") ++ s') = some (rs ++ .join c :: rs') :=
  roles_between h h' (beginsLexeme_connective c) (lexesWhole_connective c)
    fun hclosed => Place.step_connective hclosed c

/-- Behind a NOT a text has its own roles. -/
theorem roles_not {s : String} {rs : List Role} (h : roles s = some rs) :
    roles ("NOT " ++ s) = some (.not :: rs) := by
  obtain ⟨ls, p, hls, hrun, hclosed⟩ := roles_eq_some.1 h
  have hnot : LexesWhole "NOT " [.word "NOT"] := by decide
  have hstart : Place.start.run [.word "NOT"] = some (.start, [.not]) := by decide
  exact roles_eq_some.2 ⟨_, p, hnot.append hls, Place.run_append_of_run hstart hrun, hclosed⟩

/-! ### Brackets -/

namespace Place

/-- The place inside of what is open at another one. -/
def within (p : Place) (base : List Opening) : Place := ⟨p.opened ++ base, false, p.before⟩

section

variable {p q : Place} {l : Lexeme} {r : Role} {base : List Opening}

/-- What is closed has been opened inside. -/
theorem exit_within {o : Opening} (h : p.exit o l = some (q, r)) :
    (p.within base).exit o l = some (q.within base, .operand l) := by
  unfold exit at h ⊢
  split at h
  · exact (nomatch h)
  · next last rest hp =>
    rw [within, hp, List.cons_append]
    dsimp only
    split at h
    · next hlast =>
      cases h
      rw [if_pos hlast]
      rfl
    · exact (nomatch h)

/-- Inside of brackets no lexeme has a role of its own. -/
theorem step_within (h : p.step l = some (q, r)) (hbase : base ≠ []) :
    (p.within base).step l = some (q.within base, .operand l) := by
  have hopened : (p.within base).opened ≠ [] := fun hnil => hbase (List.append_eq_nil_iff.1 hnil).2
  have hbefore : (p.within base).before = p.before := rfl
  cases l with
  | mark c =>
    unfold step at h ⊢
    dsimp only at h ⊢
    rw [hbefore]
    split_ifs at h ⊢ <;> first | exact exit_within h | (cases h; rfl)
  | word w =>
    unfold step at h ⊢
    dsimp only at h ⊢
    rw [hbefore, if_neg hopened]
    split_ifs at h ⊢ <;> first | exact exit_within h | (cases h; rfl) | skip
    · unfold keyword at h
      split_ifs at h <;> cases h <;> rfl
  | operator o =>
    unfold step at h ⊢
    dsimp only at h ⊢
    rw [if_neg hopened]
    split at h <;> (cases h; rfl)
  | number _ | name _ | literal _ | placeholder _ =>
    cases h
    rfl

theorem run_within {ls : List Lexeme} {rs : List Role} (h : p.run ls = some (q, rs))
    (hbase : base ≠ []) :
    (p.within base).run ls = some (q.within base, ls.map .operand) := by
  induction ls generalizing p rs with
  | nil =>
    cases h
    rfl
  | cons l ls ih =>
    rw [run] at h
    obtain ⟨⟨p', r⟩, hstep, h⟩ := Option.bind_eq_some_iff.1 h
    obtain ⟨⟨q', rs'⟩, hrest, heq⟩ := Option.map_eq_some_iff.1 h
    cases heq
    rw [run_cons (step_within hstep hbase), ih hrest]
    rfl

end

end Place

/-- In brackets all lexemes are parts of one operand. -/
theorem roles_brackets {s : String} {rs : List Role} (h : roles s = some rs) :
    ∃ ls : List Lexeme, roles ("(" ++ s ++ ")") =
      some (.operand (.mark '(') :: ls.map .operand ++ [.operand (.mark ')')]) := by
  obtain ⟨ls, p, hls, hrun, hclosed⟩ := roles_eq_some.1 h
  have hopening : LexesWhole "(" [.mark '('] := by decide
  have hclosing : LexesWhole ")" [.mark ')'] := by decide
  have hlexemes := (lexesWhole_append (hopening.append hls) ⟨')', [], rfl, by decide⟩
    hclosing).lexemes_eq
  refine ⟨ls, roles_eq_some.2 ⟨_, .start, hlexemes, ?_, rfl⟩⟩
  have hinside := Place.run_within hrun (List.cons_ne_nil Opening.bracket [])
  have henter : Place.start.run [.mark '('] =
      some (Place.start.within [.bracket], [.operand (.mark '(')]) := by decide
  have hexit : (p.within [.bracket]).run [.mark ')'] =
      some (.start, [.operand (.mark ')')]) := by
    obtain ⟨before, -, rfl⟩ := Place.eq_of_isClosed hclosed
    rfl
  exact Place.run_append_of_run (Place.run_append_of_run henter hinside) hexit

end TypedTable
