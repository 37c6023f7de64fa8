import Mathlib.Data.List.Forall2
/-!
# Results that may fail

A chain of results succeeds exactly if every link does. `bind_eq_ok` opens one link, and
`mapM_eq_ok_iff` says the same of a list that is gone through from left to right: `mapM` succeeds
with the results of its members, one for one, and fails as its first member does that fails
(`mapM_eq_error_iff`).
-/

namespace TypedTable

variable {ε ε' α β γ : Type}

theorem bind_eq_ok {x : Except ε α} {f : α → Except ε β} {b : β} :
    x >>= f = .ok b ↔ ∃ a, x = .ok a ∧ f a = .ok b := by
  cases x with
  | error e => exact ⟨fun h => (nomatch h), fun ⟨_, h, _⟩ => (nomatch h)⟩
  | ok a =>
    constructor
    · intro h
      exact ⟨a, rfl, h⟩
    · rintro ⟨a', h, hb⟩
      cases h
      exact hb

theorem map_eq_ok {x : Except ε α} {f : α → β} {b : β} :
    x.map f = .ok b ↔ ∃ a, x = .ok a ∧ f a = b := by
  cases x with
  | error e => exact ⟨fun h => (nomatch h), fun ⟨_, h, _⟩ => (nomatch h)⟩
  | ok a => simp [Except.map]

theorem mapError_eq_ok {x : Except ε α} {f : ε → ε'} {a : α} :
    x.mapError f = .ok a ↔ x = .ok a := by
  cases x with
  | error e => exact ⟨fun h => (nomatch h), fun h => (nomatch h)⟩
  | ok b =>
    show (Except.ok b : Except ε' α) = .ok a ↔ (Except.ok b : Except ε α) = .ok a
    simp only [Except.ok.injEq]

theorem map_eq_error {x : Except ε α} {f : α → β} {e : ε} : x.map f = .error e ↔ x = .error e := by
  cases x with
  | error e' => simp [Except.map]
  | ok a => exact ⟨fun h => (nomatch h), fun h => (nomatch h)⟩

/-- A list is gone through without a failure exactly if every member has a result. -/
theorem mapM_eq_ok_iff {f : α → Except ε β} {l : List α} {r : List β} :
    l.mapM f = .ok r ↔ List.Forall₂ (fun a b => f a = .ok b) l r := by
  induction l generalizing r with
  | nil =>
    rw [List.mapM_nil, List.forall₂_nil_left_iff]
    exact ⟨fun h => (Except.ok.inj h).symm, fun h => congrArg Except.ok h.symm⟩
  | cons a l ih =>
    rw [List.mapM_cons, bind_eq_ok, List.forall₂_cons_left_iff]
    constructor
    · rintro ⟨b, hb, h⟩
      obtain ⟨bs, hbs, h⟩ := bind_eq_ok.1 h
      exact ⟨b, bs, hb, ih.1 hbs, (Except.ok.inj h).symm⟩
    · rintro ⟨b, bs, hb, hbs, rfl⟩
      exact ⟨b, hb, bind_eq_ok.2 ⟨bs, ih.2 hbs, rfl⟩⟩

/-- A list is not gone through to its end exactly if a member fails, and the failure is that of the
first one. -/
theorem mapM_eq_error_iff {f : α → Except ε β} {l : List α} {e : ε} :
    l.mapM f = .error e ↔ ∃ before a after, l = before ++ a :: after ∧
      (∀ b ∈ before, ∃ r, f b = .ok r) ∧ f a = .error e := by
  induction l with
  | nil =>
    refine iff_of_false (fun h => (nomatch h)) ?_
    rintro ⟨before, a, after, hl, -⟩
    exact absurd hl.symm (List.append_ne_nil_of_right_ne_nil before (List.cons_ne_nil a after))
  | cons a l ih =>
    rw [List.mapM_cons]
    cases ha : f a with
    | error e' =>
      constructor
      · intro h
        cases h
        exact ⟨[], a, l, rfl, fun b hb => absurd hb List.not_mem_nil, ha⟩
      · rintro ⟨before, a', after, hl, hbefore, he⟩
        cases before with
        | nil =>
          cases hl
          rw [ha] at he
          cases he
          rfl
        | cons b before =>
          cases hl
          obtain ⟨r, hr⟩ := hbefore a List.mem_cons_self
          rw [ha] at hr
          exact (nomatch hr)
    | ok r =>
      have hrest : (Except.ok r >>= fun b => l.mapM f >>= fun bs => pure (b :: bs)) = .error e ↔
          l.mapM f = .error e := map_eq_error (f := fun bs => r :: bs) (x := l.mapM f)
      rw [hrest, ih]
      constructor
      · rintro ⟨before, a', after, rfl, hbefore, he⟩
        exact ⟨a :: before, a', after, rfl, List.forall_mem_cons.2 ⟨⟨r, ha⟩, hbefore⟩, he⟩
      · rintro ⟨before, a', after, hl, hbefore, he⟩
        cases before with
        | nil =>
          cases hl
          rw [ha] at he
          exact (nomatch he)
        | cons b before =>
          cases hl
          exact ⟨before, a', after, rfl, (List.forall_mem_cons.1 hbefore).2, he⟩

/-- The failure of a list is the first failure of a member. -/
theorem mapM_eq_error_iff_findSome? {f : α → Except ε β} {g : α → Option ε}
    (h : ∀ a e, f a = .error e ↔ g a = some e) {l : List α} {e : ε} :
    l.mapM f = .error e ↔ l.findSome? g = some e := by
  have hok : ∀ a, (∃ b, f a = .ok b) ↔ g a = none := by
    intro a
    cases ha : f a with
    | error e' => exact iff_of_false (fun ⟨_, hb⟩ => (nomatch hb)) (by simp [(h a e').1 ha])
    | ok b =>
      refine iff_of_true ⟨b, rfl⟩ (Option.eq_none_iff_forall_ne_some.2 fun e' he' => ?_)
      exact (nomatch ha.symm.trans ((h a e').2 he'))
  rw [mapM_eq_error_iff, List.findSome?_eq_some_iff]
  simp only [hok, h]
  exact exists₃_congr fun _ _ _ => and_congr_right fun _ => and_comm

/-- What every step of a fold keeps holds of its result. -/
theorem of_foldlM_eq_ok {P : β → Prop} {f : β → α → Except ε β} {l : List α} {b r : β}
    (hstep : ∀ b a c, P b → f b a = .ok c → P c) (hb : P b) (h : l.foldlM f b = .ok r) : P r := by
  induction l generalizing b with
  | nil =>
    cases h
    exact hb
  | cons a l ih =>
    obtain ⟨c, hc, hrest⟩ := bind_eq_ok.1 h
    exact ih (hstep b a c hb hc) hrest

/-- If every member has a result, so has the list. -/
theorem exists_mapM_eq_ok {f : α → Except ε β} {l : List α} (h : ∀ a ∈ l, ∃ b, f a = .ok b) :
    ∃ r, l.mapM f = .ok r := by
  induction l with
  | nil => exact ⟨[], rfl⟩
  | cons a l ih =>
    obtain ⟨⟨b, hb⟩, hrest⟩ := List.forall_mem_cons.1 h
    obtain ⟨r, hr⟩ := ih hrest
    exact ⟨b :: r, mapM_eq_ok_iff.2 (.cons hb (mapM_eq_ok_iff.1 hr))⟩

/-- A list is gone through exactly if every member has something. -/
theorem mapM_eq_some_iff {f : α → Option β} {l : List α} {r : List β} :
    l.mapM f = some r ↔ List.Forall₂ (fun a b => f a = some b) l r := by
  induction l generalizing r with
  | nil =>
    rw [List.mapM_nil, List.forall₂_nil_left_iff]
    exact ⟨fun h => (Option.some.inj h).symm, fun h => congrArg some h.symm⟩
  | cons a l ih =>
    rw [List.mapM_cons, Option.bind_eq_bind, Option.bind_eq_some_iff, List.forall₂_cons_left_iff]
    refine exists_congr fun b => ?_
    rw [Option.bind_eq_bind, Option.bind_eq_some_iff]
    constructor
    · rintro ⟨hb, bs, hbs, h⟩
      exact ⟨bs, hb, ih.1 hbs, (Option.some.inj h).symm⟩
    · rintro ⟨bs, hb, hbs, rfl⟩
      exact ⟨hb, bs, ih.2 hbs, rfl⟩

/-- Whether a list is gone through depends on whether each member has something. -/
theorem isSome_mapM_iff {f : α → Option β} {l : List α} :
    (l.mapM f).isSome = true ↔ ∀ a ∈ l, (f a).isSome = true := by
  induction l with
  | nil => exact iff_of_true rfl fun a ha => absurd ha List.not_mem_nil
  | cons a l ih =>
    rw [List.forall_mem_cons, ← ih, List.mapM_cons]
    cases f a with
    | none => simp
    | some b => cases l.mapM f <;> simp

/-- A list is gone through in two ways with results that belong together if every member has such
results. -/
theorem exists_mapM_forall₂_iff {f : α → Option β} {g : α → Option γ} {R : β → γ → Prop}
    {l : List α} :
    (∃ r r', l.mapM f = some r ∧ l.mapM g = some r' ∧ List.Forall₂ R r r') ↔
      ∀ a ∈ l, ∃ b c, f a = some b ∧ g a = some c ∧ R b c := by
  simp only [mapM_eq_some_iff]
  constructor
  · rintro ⟨r, r', hf, hg, hrelated⟩ a ha
    induction hf generalizing r' with
    | nil => exact absurd ha List.not_mem_nil
    | cons hb _ ih =>
      cases hg with
      | cons hc hg =>
        obtain ⟨hbc, hrelated⟩ := List.forall₂_cons.1 hrelated
        rcases List.mem_cons.1 ha with rfl | ha
        · exact ⟨_, _, hb, hc, hbc⟩
        · exact ih _ hg hrelated ha
  · intro h
    induction l with
    | nil => exact ⟨[], [], .nil, .nil, .nil⟩
    | cons a l ih =>
      obtain ⟨⟨b, c, hb, hc, hbc⟩, hrest⟩ := List.forall_mem_cons.1 h
      obtain ⟨r, r', hf, hg, hrelated⟩ := ih hrest
      exact ⟨b :: r, c :: r', .cons hb hf, .cons hc hg, .cons hbc hrelated⟩

/-- In lists whose members belong together one for one, a member of one belongs to the member of the
other at its place. -/
theorem getElem?_of_forall₂ {R : α → β → Prop} {l : List α} {r : List β} (h : List.Forall₂ R l r)
    {n : Nat} {b : β} (hb : r[n]? = some b) : ∃ a, l[n]? = some a ∧ R a b := by
  induction h generalizing n with
  | nil => cases hb
  | cons hab _ ih =>
    cases n with
    | zero =>
      cases hb
      exact ⟨_, rfl, hab⟩
    | succ n => exact ih hb

/-- In lists whose members belong together one for one, every member of the second belongs to one of
the first. -/
theorem exists_of_mem_right {R : α → β → Prop} {l : List α} {r : List β} (h : List.Forall₂ R l r)
    {b : β} (hb : b ∈ r) : ∃ a ∈ l, R a b := by
  induction h with
  | nil => exact absurd hb List.not_mem_nil
  | cons hab _ ih =>
    rcases List.mem_cons.1 hb with rfl | hb
    · exact ⟨_, List.mem_cons_self, hab⟩
    · obtain ⟨a, ha, hab⟩ := ih hb
      exact ⟨a, List.mem_cons_of_mem _ ha, hab⟩

/-- The results of two lists whose members belong together do so if those of single members do. -/
theorem forall₂_of_mapM {α' β' ε'' : Type} {f : α → Except ε β} {g : α' → Except ε'' β'}
    {R : α → α' → Prop} {S : β → β' → Prop} {l : List α} {l' : List α'} {r : List β}
    {r' : List β'} (h : List.Forall₂ R l l') (hr : l.mapM f = .ok r) (hr' : l'.mapM g = .ok r')
    (hrelated : ∀ {a a' b b'}, R a a' → f a = .ok b → g a' = .ok b' → S b b') :
    List.Forall₂ S r r' := by
  rw [mapM_eq_ok_iff] at hr hr'
  induction h generalizing r r' with
  | nil =>
    cases hr
    cases hr'
    exact .nil
  | cons ha _ ih =>
    cases hr with
    | cons hb hr =>
      cases hr' with
      | cons hb' hr' => exact .cons (hrelated ha hb hb') (ih hr hr')

/-- Lists whose members belong together one for one have the same image under functions that agree on
members that do. -/
theorem map_eq_of_forall₂ {γ : Type} {f : α → γ} {g : β → γ} {l : List α} {r : List β}
    (h : List.Forall₂ (fun a b => f a = g b) l r) : l.map f = r.map g := by
  rw [← List.forall₂_map_right_iff, ← List.forall₂_map_left_iff, List.forall₂_eq_eq_eq] at h
  exact h

/-- In lists whose members belong together one for one, some member of the first has a property if
some member of the second has one that comes to the same. -/
theorem exists_mem_iff_of_forall₂ {P : α → Prop} {Q : β → Prop} {l : List α} {r : List β}
    (h : List.Forall₂ (fun a b => P a ↔ Q b) l r) : (∃ a ∈ l, P a) ↔ ∃ b ∈ r, Q b := by
  induction h with
  | nil => simp
  | cons hab _ ih => rw [List.exists_mem_cons_iff, List.exists_mem_cons_iff, hab, ih]

/-- In lists whose members belong together one for one, what holds of any two members of the first
says something of those of the second. -/
theorem pairwise_of_forall₂ {R : α → β → Prop} {S : α → α → Prop} {S' : β → β → Prop} {l : List α}
    {r : List β} (h : List.Forall₂ R l r) (hpairwise : l.Pairwise S)
    (hrelated : ∀ {a a' b b'}, R a b → R a' b' → S a a' → S' b b') : r.Pairwise S' := by
  induction h with
  | nil => exact .nil
  | cons hab hrest ih =>
    obtain ⟨hall, hpairwise⟩ := List.pairwise_cons.1 hpairwise
    refine List.pairwise_cons.2 ⟨fun b' hb' => ?_, ih hpairwise⟩
    obtain ⟨a', ha', hab'⟩ := exists_of_mem_right hrest hb'
    exact hrelated hab hab' (hall a' ha')

end TypedTable
