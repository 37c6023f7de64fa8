import TypedTable.Proofs.Reader.Token
/-!
# Reading conditions

`Reading.step` reads the tokens of a condition one at a time. What is waiting for its right operand
is kept on a stack of frames, and whatever comes after an operand first completes the frames that
bind at least as strongly (`reduce`): LIKE binds more strongly than comparisons, then come tests for
null, NOT, AND and OR. Comparisons cannot be put in a row.

Tokens are read as an expression (`ReadsAs`) if it comes out whole behind a connective or
a NOT, whatever follows. That holds of comparisons and tests for null (`reads_compare`,
`reads_test`) and of everything in brackets (`reads_not`, `reads_group`); without brackets around
them, expressions with one connective are joined from left to right (`reads_joined`).
-/

namespace TypedTable

/-! ### The reader -/

/-- How strongly a connective binds. -/
def Connective.strength : Connective → Nat
  | or => 1
  | and => 2

/-- How strongly a negation binds. -/
def negationStrength : Nat := 3

/-- How strongly a test for null binds. -/
def testStrength : Nat := 4

/-- How strongly a comparison binds. -/
def Comparator.strength : Comparator → Nat
  | like => 6
  | eq | ne | lt | gt | le | ge => 5

/-- What waits for an operand. -/
inductive Frame
  /-- An open bracket. -/
  | opening
  | not
  | compare (c : Comparator) (left : Expr)
  | join (c : Connective) (left : Expr)
deriving DecidableEq

namespace Frame

/-- How strongly a frame binds. An open bracket is completed by the closing one only. -/
def strength : Frame → Nat
  | opening => 0
  | not => negationStrength
  | compare c _ => c.strength
  | join c _ => c.strength

/-- The frame with its operand. -/
def complete : Frame → Expr → Expr
  | opening, e => e
  | not, e => .not e
  | compare c left, e => .compare c left e
  | join c left, e => .join c left e

end Frame

/-- Completes the frames that bind at least as strongly. -/
def reduce (strength : Nat) : List Frame → Expr → List Frame × Expr
  | [], e => ([], e)
  | f :: stack, e =>
    if strength ≤ f.strength then reduce strength stack (f.complete e) else (f :: stack, e)

/-- What has been read of a condition. -/
inductive Reading
  /-- An operand must follow. -/
  | operand (stack : List Frame)
  /-- The parts of a name, of which there may be more. -/
  | name (stack : List Frame) (parts : List String)
  /-- Behind a point in a name. -/
  | point (stack : List Frame) (parts : List String)
  /-- Behind an operand. -/
  | complete (stack : List Frame) (e : Expr)
  /-- Behind an IS. -/
  | is (stack : List Frame) (e : Expr)
  /-- Behind an IS NOT. -/
  | isNot (stack : List Frame) (e : Expr)
deriving DecidableEq

namespace Reading

/-- Reads a token where an operand must follow. -/
def first (stack : List Frame) : Token → Option Reading
  | .identifier s => some (name stack [s])
  | .placeholder s => some (complete stack (.value s))
  | .constant b => some (complete stack (.constant b))
  | .opening => some (operand (.opening :: stack))
  | .not => some (operand (.not :: stack))
  | _ => none

/-- Reads a token behind an operand. -/
def next (stack : List Frame) (e : Expr) : Token → Option Reading
  | .join c =>
    let (stack, left) := reduce c.strength stack e
    some (operand (.join c left :: stack))
  | .comparison c =>
    let (stack, left) := reduce (c.strength + 1) stack e
    if stack.head?.map Frame.strength = some c.strength then none
    else some (operand (.compare c left :: stack))
  | .is =>
    let (stack, e) := reduce testStrength stack e
    some (is stack e)
  | .closing =>
    match reduce 1 stack e with
    | (.opening :: stack, e) => some (complete stack e)
    | _ => none
  | _ => none

/-- Reads one token. -/
def step : Reading → Token → Option Reading
  | operand stack, t => first stack t
  | name stack parts, .point => some (point stack parts)
  | point stack parts, .identifier s => some (name stack (parts ++ [s]))
  | name stack parts, t => next stack (.column parts) t
  | complete stack e, t => next stack e t
  | is stack e, .null => some (complete stack (.isNull e))
  | is stack e, .not => some (isNot stack e)
  | isNot stack e, .null => some (complete stack (.isNotNull e))
  | point _ _, _ | is _ _, _ | isNot _ _, _ => none

/-- Reads tokens one after the other. -/
def run (r : Reading) (ts : List Token) : Option Reading := ts.foldlM step r

/-- The operand that was read last, with what waits for it. -/
def settled : Reading → Option (List Frame × Expr)
  | name stack parts => some (stack, .column parts)
  | complete stack e => some (stack, e)
  | operand _ | point _ _ | is _ _ | isNot _ _ => none

/-- The condition, if nothing is missing. -/
def finish (r : Reading) : Option Expr :=
  match r.settled with
  | none => none
  | some (stack, e) =>
    match reduce 1 stack e with
    | ([], e) => some e
    | _ => none

/-- The expression that tokens make up. -/
def parse (ts : List Token) : Option Expr := ((operand []).run ts).bind finish

theorem run_append (r : Reading) (ts us : List Token) :
    r.run (ts ++ us) = (r.run ts).bind (run · us) :=
  List.foldlM_append

end Reading

/-! ### Completing frames -/

/-- Whether what waits last binds less strongly. -/
def IsBelow (strength : Nat) (stack : List Frame) : Prop :=
  ∀ f ∈ stack.head?, f.strength < strength

theorem isBelow_cons {strength : Nat} {f : Frame} {stack : List Frame} :
    IsBelow strength (f :: stack) ↔ f.strength < strength := by
  simp [IsBelow]

theorem IsBelow.mono {strength strength' : Nat} {stack : List Frame} (h : IsBelow strength stack)
    (hle : strength ≤ strength') : IsBelow strength' stack :=
  fun f hf => Nat.lt_of_lt_of_le (h f hf) hle

theorem reduce_of_isBelow {strength : Nat} {stack : List Frame} (h : IsBelow strength stack)
    (e : Expr) : reduce strength stack e = (stack, e) := by
  cases stack with
  | nil => rfl
  | cons f stack => rw [reduce, if_neg (Nat.not_le.2 (isBelow_cons.1 h))]

theorem reduce_cons {strength : Nat} {f : Frame} (h : strength ≤ f.strength) (stack : List Frame)
    (e : Expr) : reduce strength (f :: stack) e = reduce strength stack (f.complete e) :=
  if_pos h

/-- Frames that bind more strongly may be completed first. -/
theorem reduce_reduce {weak strong : Nat} (h : weak ≤ strong) (stack : List Frame) (e : Expr) :
    reduce weak (reduce strong stack e).1 (reduce strong stack e).2 = reduce weak stack e := by
  induction stack generalizing e with
  | nil => rfl
  | cons f stack ih =>
    by_cases hf : strong ≤ f.strength
    · rw [reduce_cons hf, ih, reduce_cons (Nat.le_trans h hf)]
    · rw [reduce_of_isBelow (isBelow_cons.2 (Nat.lt_of_not_le hf))]

namespace Reading

/-! ### Operands that were read -/

/-- Whether a whole expression was read, of which only what binds at least as strongly may still be
incomplete. -/
def Gives (r : Reading) (strength : Nat) (stack : List Frame) (e : Expr) : Prop :=
  ∃ inner last, r.settled = some (inner, last) ∧ reduce strength inner last = (stack, e)

variable {r : Reading} {stack : List Frame} {e : Expr} {strength : Nat}

theorem gives_complete (h : IsBelow strength stack) (e : Expr) :
    (complete stack e).Gives strength stack e :=
  ⟨stack, e, rfl, reduce_of_isBelow h e⟩

/-- What binds less strongly is completed later. -/
theorem Gives.reduce (h : r.Gives strength stack e) {weak : Nat} (hle : weak ≤ strength) :
    r.Gives weak (reduce weak stack e).1 (reduce weak stack e).2 := by
  obtain ⟨inner, last, hsettled, hreduce⟩ := h
  refine ⟨inner, last, hsettled, ?_⟩
  rw [← reduce_reduce hle inner last, hreduce]

theorem Gives.mono (h : r.Gives strength stack e) {weak : Nat} (hle : weak ≤ strength)
    (hstack : IsBelow weak stack) : r.Gives weak stack e := by
  have hweak := h.reduce hle
  rwa [reduce_of_isBelow hstack] at hweak

theorem step_of_settled {t : Token} (h : r.settled = some (stack, e)) (ht : t ≠ .point) :
    r.step t = next stack e t := by
  cases r with
  | name stack' parts =>
    cases h
    cases t <;> first | rfl | exact absurd rfl ht
  | complete stack' e' =>
    cases h
    rfl
  | operand | point | is | isNot => exact (nomatch h)

theorem Gives.step_join {c : Connective} (h : r.Gives c.strength stack e) :
    r.step (.join c) = some (operand (.join c e :: stack)) := by
  obtain ⟨inner, last, hsettled, hreduce⟩ := h
  rw [step_of_settled (t := .join c) hsettled nofun, next, hreduce]

theorem Gives.step_closing (h : r.Gives 1 (.opening :: stack) e) :
    r.step .closing = some (complete stack e) := by
  obtain ⟨inner, last, hsettled, hreduce⟩ := h
  rw [step_of_settled (t := .closing) hsettled nofun, next, hreduce]

theorem Gives.finish_eq (h : r.Gives 1 [] e) : r.finish = some e := by
  obtain ⟨inner, last, hsettled, hreduce⟩ := h
  rw [finish, hsettled]
  dsimp only
  rw [hreduce]

end Reading

/-! ### Tokens of whole expressions -/

open Reading

/-- Whether tokens are read as an expression wherever an operand of a connective or of a negation is
expected, whatever follows. -/
def ReadsAs (ts : List Token) (e : Expr) : Prop :=
  ∀ stack, IsBelow testStrength stack →
    ∃ r, (operand stack).run ts = some r ∧ r.Gives testStrength stack e

theorem Connective.strength_lt (c : Connective) : c.strength < testStrength := by
  cases c <;> decide

theorem Connective.strength_pos (c : Connective) : 1 ≤ c.strength := by
  cases c <;> decide

/-- Tokens of expressions with a connective between any two of them. -/
def Token.joined (c : Connective) : List (List Token) → List Token
  | [] => []
  | ts :: rest => ts ++ rest.flatMap (.join c :: ·)

/-- What follows an expression is joined to it from left to right. -/
theorem reads_rest {c : Connective} {stack : List Frame} (hstack : IsBelow c.strength stack)
    {tss : List (List Token)} {es : List Expr} (h : List.Forall₂ ReadsAs tss es) {r : Reading}
    {e : Expr} (hr : r.Gives c.strength stack e) :
    ∃ r', r.run (tss.flatMap (.join c :: ·)) = some r' ∧
      r'.Gives c.strength stack (es.foldl (.join c) e) := by
  induction h generalizing r e with
  | nil => exact ⟨r, rfl, hr⟩
  | @cons ts e' tss es hts _ ih =>
    obtain ⟨r₁, hrun, hgives⟩ := hts (.join c e :: stack) (isBelow_cons.2 c.strength_lt)
    -- The expression on the left and the new one are joined as soon as something follows.
    have hjoined : r₁.Gives c.strength stack (.join c e e') := by
      have hreduced := hgives.reduce (Nat.le_of_lt c.strength_lt)
      have hcons : reduce c.strength (.join c e :: stack) e' = (stack, .join c e e') :=
        (reduce_cons (f := .join c e) (Nat.le_refl _) stack e').trans (reduce_of_isBelow hstack _)
      rwa [hcons] at hreduced
    obtain ⟨r₂, hrest, hlast⟩ := ih hjoined
    refine ⟨r₂, ?_, hlast⟩
    have hstep : r.run (.join c :: ts) = some r₁ := by
      show (r.step (.join c)).bind (run · ts) = some r₁
      rw [hr.step_join]
      exact hrun
    rw [List.flatMap_cons, run_append, hstep]
    exact hrest

/-- Expressions with a connective between any two of them are joined from left to right. -/
theorem reads_joined (c : Connective) {tss : List (List Token)} {es : List Expr}
    (h : List.Forall₂ ReadsAs tss es) (hne : tss ≠ []) {stack : List Frame}
    (hstack : IsBelow c.strength stack) :
    ∃ r, (operand stack).run (Token.joined c tss) = some r ∧
      r.Gives c.strength stack (Expr.joined c es) := by
  cases h with
  | nil => exact absurd rfl hne
  | cons hts hrest =>
    have hbelow := Nat.le_of_lt c.strength_lt
    obtain ⟨r₁, hrun, hgives⟩ := hts stack (hstack.mono hbelow)
    obtain ⟨r₂, hrun', hlast⟩ := reads_rest hstack hrest (hgives.mono hbelow hstack)
    refine ⟨r₂, ?_, hlast⟩
    rw [Token.joined, run_append, hrun]
    exact hrun'

/-- What stands in brackets is read by itself. -/
theorem reads_brackets (ts : List Token) {e : Expr} {strength : Nat} (hpos : 1 ≤ strength)
    (h : ∀ stack, ∃ r, (operand (.opening :: stack)).run ts = some r ∧
      r.Gives strength (.opening :: stack) e) :
    ReadsAs (.opening :: (ts ++ [.closing])) e := by
  intro stack hstack
  obtain ⟨r, hrun, hgives⟩ := h stack
  have hclosing := (hgives.mono hpos (isBelow_cons.2 Nat.zero_lt_one)).step_closing
  refine ⟨complete stack e, ?_, gives_complete hstack e⟩
  show (operand (.opening :: stack)).run (ts ++ [.closing]) = _
  rw [run_append, hrun]
  show (r.step .closing).bind some = _
  rw [hclosing]
  rfl

/-- A negation in brackets is read as one. -/
theorem reads_not {ts : List Token} {e : Expr} (h : ReadsAs ts e) :
    ReadsAs (.opening :: .not :: (ts ++ [.closing])) (.not e) := by
  refine reads_brackets (.not :: ts) (Nat.le_refl 1) fun stack => ?_
  obtain ⟨r, hrun, hgives⟩ := h (.not :: .opening :: stack) (isBelow_cons.2 (by decide))
  exact ⟨r, hrun, hgives.reduce (by decide)⟩

/-- A constant in brackets is read as one. -/
theorem reads_constant (b : Bool) : ReadsAs [.opening, .constant b, .closing] (.constant b) :=
  reads_brackets [.constant b] (Nat.le_refl 1) fun stack =>
    ⟨complete (.opening :: stack) (.constant b), rfl,
      gives_complete (isBelow_cons.2 Nat.zero_lt_one) _⟩

/-- Expressions in brackets with a connective between any two of them are read as joined. -/
theorem reads_group (c : Connective) {tss : List (List Token)} {es : List Expr}
    (h : List.Forall₂ ReadsAs tss es) (hne : tss ≠ []) :
    ReadsAs (.opening :: (Token.joined c tss ++ [.closing])) (.joined c es) :=
  reads_brackets _ c.strength_pos fun _ =>
    reads_joined c h hne (isBelow_cons.2 c.strength_pos)

/-! ### Comparisons and tests for null -/

theorem run_column (stack : List Frame) (c : Column) :
    ∃ r, (operand stack).run c.tokens = some r ∧ r.settled = some (stack, c.expr) :=
  ⟨name stack [c.table.schema.text, c.table.table.text, c.ident.text], rfl, rfl⟩

theorem Comparator.testStrength_lt (c : Comparator) : testStrength < c.strength := by
  cases c <;> decide

/-- Behind an operand of a connective a comparison waits for its right side. -/
theorem next_comparison {stack : List Frame} (h : IsBelow testStrength stack) (e : Expr)
    (c : Comparator) : next stack e (.comparison c) = some (operand (.compare c e :: stack)) := by
  have hlt := c.testStrength_lt
  have hne : stack.head?.map Frame.strength ≠ some c.strength := by
    intro heq
    obtain ⟨f, hf, hstrength⟩ := Option.map_eq_some_iff.1 heq
    exact Nat.lt_asymm hlt (hstrength ▸ h f hf)
  rw [next, reduce_of_isBelow (h.mono (Nat.le_succ_of_le (Nat.le_of_lt hlt)))]
  exact if_neg hne

/-- A comparison of a column with one operand is read as one. -/
theorem reads_compare (column : Column) (c : Comparator) {ts : List Token} {right : Expr}
    (h : ∀ stack, ∃ r, (operand stack).run ts = some r ∧ r.settled = some (stack, right)) :
    ReadsAs (column.tokens ++ .comparison c :: ts) (.compare c column.expr right) := by
  intro stack hstack
  obtain ⟨left, hleft, hcolumn⟩ := run_column stack column
  obtain ⟨r, hright, hsettled⟩ := h (.compare c column.expr :: stack)
  refine ⟨r, ?_, _, _, hsettled, ?_⟩
  · rw [run_append, hleft]
    show (left.step (.comparison c)).bind (run · ts) = _
    rw [step_of_settled (t := .comparison c) hcolumn nofun, next_comparison hstack]
    exact hright
  · rw [reduce_cons (Nat.le_of_lt c.testStrength_lt), reduce_of_isBelow hstack]
    rfl

/-- A test for null of a column is read as one. -/
theorem reads_test (column : Column) {ts : List Token} {e : Expr}
    (h : ∀ stack, (is stack column.expr).run ts = some (complete stack e)) :
    ReadsAs (column.tokens ++ .is :: ts) e := by
  intro stack hstack
  obtain ⟨r, hrun, hsettled⟩ := run_column stack column
  refine ⟨complete stack e, ?_, gives_complete hstack e⟩
  rw [run_append, hrun]
  show (r.step .is).bind (run · ts) = _
  rw [step_of_settled (t := .is) hsettled nofun, next, reduce_of_isBelow hstack]
  exact h stack

end TypedTable
