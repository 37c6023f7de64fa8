import TypedTable.Proofs.Rendering.Predicate
/-!
# Checked conditions

Checking a condition makes its predicate from the parts outward and gives a number to every value
that is bound. So all predicates that conditions stand for belong to one pool, in which no name
comes with two values: those of one condition and of a list that is checked up to the first failure
(`makes_check`, `makes_checkList`), and those of conditions that are checked independently of each
other (`exists_checkEach`). Parts of a condition that fails belong to it as well, and their numbers
are not used again.
-/

namespace TypedTable

namespace Condition

mutual

/-- Whether a condition has no SQL text in it, apart from text that stands for itself. -/
def IsPlain : Condition → Prop
  | compare _ _ (.value v) => v.IsInert
  | compare _ _ (.column _) | isNull _ | isNotNull _ => True
  | all parts | any parts => IsPlainList parts
  | not part => part.IsPlain
  | raw _ _ => False

/-- Whether all conditions of a list are plain. -/
def IsPlainList : List Condition → Prop
  | [] => True
  | c :: rest => c.IsPlain ∧ IsPlainList rest

end

end Condition

variable {α : Type} {next : Nat} {pool : List Predicate}

/-- Whether a pool can be extended to one that has all predicates of a result, with the number that
comes with the result as the next one. -/
def Makes (predicates : α → List Predicate) (pool : List Predicate) (r : Except Error α × Nat) :
    Prop :=
  ∃ larger, Composed r.2 larger ∧ pool ⊆ larger ∧ ∀ a, r.1 = .ok a → predicates a ⊆ larger

/-- A result without predicates leaves the pool as it is. -/
theorem makes_nothing (h : Composed next pool) (r : Except Error α) :
    Makes (fun _ => []) pool (r, next) :=
  ⟨pool, h, fun _ hp => hp, fun _ _ => List.nil_subset pool⟩

/-- A predicate that is put together from those of a result belongs to a larger pool. -/
theorem Makes.map {predicates : α → List Predicate} {r : Except Error α × Nat} {f : α → Predicate}
    (h : Makes predicates pool r)
    (hput : ∀ a larger, Composed r.2 larger → predicates a ⊆ larger →
      Composed r.2 (f a :: larger)) : Makes (fun p => [p]) pool (r.1.map f, r.2) := by
  obtain ⟨larger, hlarger, hpool, hpredicates⟩ := h
  cases hr : r.1 with
  | error e => exact ⟨larger, hlarger, hpool, fun p hp => (nomatch hp)⟩
  | ok a =>
    refine ⟨f a :: larger, hput a larger hlarger (hpredicates a hr), ?_, ?_⟩
    · exact fun p hp => List.mem_cons_of_mem _ (hpool hp)
    · rintro p hp q hq
      cases hp
      exact List.mem_singleton.1 hq ▸ List.mem_cons_self

/-- What a check of a comparison can come to: a failure, which uses up no number, a comparison of
columns, or a comparison with the value that was given. -/
theorem checkComparison_cases (comparator : Comparator) (column : ColumnRef)
    (comparand : Comparand) (next : Nat) :
    (∃ e, Condition.checkComparison comparator column comparand next = (.error e, next)) ∨
      (∃ c d, Condition.checkComparison comparator column comparand next =
        (.ok (.compare c comparator (.column d)), next)) ∨
      ∃ c v operand after, comparand = .value v ∧ c.operand v next = (.ok operand, after) ∧
        Condition.checkComparison comparator column comparand next =
          (.ok (.compare c comparator operand), after) := by
  unfold Condition.checkComparison
  dsimp only
  split
  · next e _ => exact .inl ⟨e, rfl⟩
  · next c d _ => exact .inr (.inl ⟨c, d, rfl⟩)
  · next c v hchecked =>
    -- The check keeps the kind of the comparand, so this one was a value.
    have hvalue : comparand = .value v := by
      obtain ⟨_, -, hchecked⟩ := bind_eq_ok.1 hchecked
      obtain ⟨other, hother, hchecked⟩ := bind_eq_ok.1 hchecked
      obtain ⟨-, -, hchecked⟩ := bind_eq_ok.1 hchecked
      cases hchecked
      cases comparand with
      | value w =>
        cases hother
        rfl
      | column r =>
        obtain ⟨_, -, hother⟩ := map_eq_ok.1 hother
        exact (nomatch hother)
    cases hoperand : c.operand v next with
    | mk operand after =>
      cases operand with
      | ok operand => exact .inr (.inr ⟨c, v, operand, after, hvalue, hoperand, rfl⟩)
      | error e =>
        -- A value that the column does not take uses up no number.
        have hafter : after = next := by
          unfold Column.operand at hoperand
          split at hoperand <;> cases hoperand
          rfl
        exact .inl ⟨e, congrArg (Except.error e, ·) hafter⟩

/-- A comparison is made with the next number, or fails and uses up none. -/
theorem makes_checkComparison (h : Composed next pool) (comparator : Comparator)
    (column : ColumnRef) {comparand : Comparand} (hinert : ∀ v, comparand = .value v → v.IsInert) :
    Makes (fun p => [p]) pool (Condition.checkComparison comparator column comparand next) := by
  have hmade : ∀ {p after}, Composed after (p :: pool) →
      Makes (fun p => [p]) pool (.ok p, after) := by
    intro p after hp
    refine ⟨p :: pool, hp, List.subset_cons_self p pool, fun q hq r hr => ?_⟩
    cases hq
    exact List.mem_singleton.1 hr ▸ List.mem_cons_self
  obtain ⟨e, hr⟩ | ⟨c, d, hr⟩ | ⟨c, v, operand, after, hvalue, hoperand, hr⟩ :=
    checkComparison_cases comparator column comparand next
  · rw [hr]
    exact ⟨pool, h, fun _ hp => hp, fun _ hp => (nomatch hp)⟩
  · rw [hr]
    exact hmade (.compareColumns c comparator d h)
  · rw [hr]
    exact hmade (.compare comparator h (hinert v hvalue) hoperand)

mutual

/-- A condition is put together from a pool and adds its predicate to it. -/
theorem makes_check {next : Nat} {pool : List Predicate} (h : Composed next pool) :
    (c : Condition) → c.IsPlain → Makes (fun p => [p]) pool (Condition.check next c)
  | .compare comparator column (.value v), hplain =>
    makes_checkComparison h comparator column fun w hw => by cases hw; exact hplain
  | .compare comparator column (.column r), _ =>
    makes_checkComparison h comparator column fun w hw => (nomatch hw)
  | .isNull column, _ =>
    (makes_nothing h column.resolve).map fun c larger hlarger _ => .isNull c hlarger
  | .isNotNull column, _ =>
    (makes_nothing h column.resolve).map fun c larger hlarger _ => .isNotNull c hlarger
  | .all parts, hplain =>
    (makes_checkList h parts hplain).map fun ps larger hlarger hps => .all hlarger hps
  | .any parts, hplain =>
    (makes_checkList h parts hplain).map fun ps larger hlarger hps => .any hlarger hps
  | .not part, hplain =>
    (makes_check h part hplain).map fun p larger hlarger hp => .not hlarger (hp List.mem_cons_self)

/-- Conditions that are checked one after the other are put together from a pool. -/
theorem makes_checkList {next : Nat} {pool : List Predicate} (h : Composed next pool) :
    (l : List Condition) → Condition.IsPlainList l → Makes id pool (Condition.checkList next l)
  | [], _ => ⟨pool, h, fun _ hp => hp, fun ps hps => by cases hps; exact List.nil_subset pool⟩
  | c :: rest, hplain => by
    obtain ⟨larger, hlarger, hpool, hp⟩ := makes_check h c hplain.1
    rw [Condition.checkList]
    cases hcheck : Condition.check next c with
    | mk checked after =>
      rw [hcheck] at hlarger hp
      cases checked with
      -- The parts before a failure stay in the pool, with the numbers that they took.
      | error e => exact ⟨larger, hlarger, hpool, fun ps hps => (nomatch hps)⟩
      | ok p =>
        obtain ⟨last, hlast, hsub, hps⟩ := makes_checkList hlarger rest hplain.2
        refine ⟨last, hlast, List.Subset.trans hpool hsub, fun ps heq => ?_⟩
        obtain ⟨others, hothers, rfl⟩ := map_eq_ok.1 heq
        refine List.cons_subset.2 ⟨hsub (hp p rfl List.mem_cons_self), hps others hothers⟩

end

/-- The predicates of conditions that are checked independently of each other are in one pool. -/
theorem exists_checkEach {next : Nat} {pool : List Predicate} (h : Composed next pool)
    {l : List Condition} (hl : ∀ c ∈ l, c.IsPlain) :
    ∃ larger, Composed (Condition.checkEach next l).2 larger ∧ pool ⊆ larger ∧
      ∀ p, .ok p ∈ (Condition.checkEach next l).1 → p ∈ larger := by
  -- The next condition starts with the pool and the number that this one leaves, failed or not.
  induction l generalizing next pool with
  | nil => exact ⟨pool, h, fun _ hp => hp, fun p hp => absurd hp List.not_mem_nil⟩
  | cons c rest ih =>
    obtain ⟨hc, hrest⟩ := List.forall_mem_cons.1 hl
    obtain ⟨larger, hlarger, hpool, hp⟩ := makes_check h c hc
    obtain ⟨last, hlast, hsub, hps⟩ := ih hlarger hrest
    refine ⟨last, hlast, List.Subset.trans hpool hsub, fun p hmem => ?_⟩
    rcases List.mem_cons.1 hmem with heq | hmem
    · exact hsub (hp p heq.symm List.mem_cons_self)
    · exact hps p hmem

end TypedTable
