import TypedTable.Proofs.Reader.Parser
import TypedTable.Proofs.Splice.Role
/-!
# Formulas made of operands

`readRoles` reads a condition down to its operands: it cuts the condition at every OR, what is
between at every AND, and takes the NOTs off the front of what is left. Everything else belongs to
an operand and is not looked into. A condition can be read exactly if an operand stands wherever one
is expected (`isSome_readRoles_iff`), so conditions that are joined can always be read.

They need not be read as they were joined. `readRoles_joined` says that they are exactly if all of
them bind strongly enough (`Formula.Fits`): the first one at least as strongly as the connective
between them, the others more strongly. Where all bind at least as strongly as the connective, the
truth of the whole is that of all conditions taken together. A condition behind a NOT is negated
exactly if it is no conjunction and no disjunction (`readRoles_not`).
-/

namespace TypedTable

/-- A condition down to its operands. -/
inductive Formula
  | operand (rs : List Role)
  | not (f : Formula)
  | join (c : Connective) (left right : Formula)
deriving DecidableEq

namespace Formula

/-- How strongly a formula binds. -/
def strength : Formula → Nat
  | operand _ => testStrength
  | not _ => negationStrength
  | join c _ _ => c.strength

/-- The truth of a formula, given that of its operands. -/
def truth (σ : List Role → Truth) : Formula → Truth
  | operand rs => σ rs
  | not f => (f.truth σ).not
  | join c left right => c.apply (left.truth σ) (right.truth σ)

/-- Formulas joined from left to right. -/
def joined (c : Connective) : List Formula → Formula
  | [] => operand []
  | f :: fs => fs.foldl (join c) f

/-- Whether formulas with a connective between any two of them are the operands of the
connective. -/
def Fits (c : Connective) : List Formula → Prop
  | f :: g :: rest => c.strength ≤ f.strength ∧ ∀ h ∈ g :: rest, c.strength < h.strength
  | _ => True

end Formula

open Formula

/-! ### The reader -/

/-- Takes the NOTs off the front of an operand. -/
def readOperand : List Role → Option Formula
  | [] => none
  | .not :: rs => (readOperand rs).map .not
  | r :: rs => some (.operand (r :: rs))

/-- Cuts at every connective of a kind. -/
def cut (c : Connective) (rs : List Role) : List (List Role) := rs.splitOnP (· == .join c)

/-- Cuts at every connective of a kind and reads what is between. -/
def readCut (c : Connective) (read : List Role → Option Formula) (rs : List Role) :
    Option Formula :=
  ((cut c rs).mapM read).map (joined c)

/-- What is read between connectives of a kind. -/
def readBetween : Connective → List Role → Option Formula
  | .and => readOperand
  | .or => readCut .and readOperand

/-- The formula that a condition is. -/
def readRoles (rs : List Role) : Option Formula := readCut .or (readBetween .or) rs

/-- The formula of an SQL text. -/
def readText (sql : String) : Option Formula := (roles sql).bind readRoles

/-- NOT binds more strongly than AND, and AND more strongly than OR. -/
example : readText "NOT a AND b OR c IS NOT NULL" =
    some (.join .or
      (.join .and (.not (.operand [.operand (.word "A")])) (.operand [.operand (.word "B")]))
      (.operand [.operand (.word "C"), .test, .not, .operand (.word "NULL")])) := by
  decide

/-! ### Joining from left to right -/

namespace Connective

variable (c : Connective)

theorem unit_apply (t : Truth) : c.apply (.ofBool c.unit) t = t := by
  cases c <;> cases t <;> rfl

theorem fold_append (ts us : List Truth) :
    c.fold (ts ++ us) = c.apply (c.fold ts) (c.fold us) := by
  induction ts with
  | nil => rw [List.nil_append, fold_nil, unit_apply]
  | cons t ts ih => rw [List.cons_append, fold_cons, ih, fold_cons, apply_assoc]

end Connective

namespace Formula

variable {c : Connective}

theorem joined_append {ds : List Formula} (hds : ds ≠ []) (fs : List Formula) :
    joined c (ds ++ fs) = fs.foldl (join c) (joined c ds) := by
  cases ds with
  | nil => exact absurd rfl hds
  | cons d ds => exact List.foldl_append

theorem strength_foldl (f g : Formula) (fs : List Formula) :
    ((g :: fs).foldl (join c) f).strength = c.strength := by
  induction fs generalizing f g with
  | nil => rfl
  | cons h fs ih => exact ih (join c f g) h

/-- A formula of several ones binds as strongly as their connective. -/
theorem strength_joined {fs : List Formula} (h : 1 < fs.length) :
    (joined c fs).strength = c.strength := by
  obtain _ | ⟨f, _ | ⟨g, fs⟩⟩ := fs
  · exact absurd h (by decide)
  · exact absurd h (by simp)
  · exact strength_foldl f g fs

/-- Taking all formulas of a list together and a further one comes to the same as joining them. -/
theorem truth_foldl (σ : List Role → Truth) (f : Formula) (fs : List Formula) :
    (fs.foldl (join c) f).truth σ = c.apply (f.truth σ) (c.fold (fs.map (truth σ))) := by
  induction fs generalizing f with
  | nil => simp
  | cons g fs ih => rw [List.foldl_cons, ih, truth, c.apply_assoc, List.map_cons, c.fold_cons]

theorem truth_joined (σ : List Role → Truth) {fs : List Formula} (hfs : fs ≠ []) :
    (joined c fs).truth σ = c.fold (fs.map (truth σ)) := by
  cases fs with
  | nil => exact absurd rfl hfs
  | cons f fs => rw [joined, truth_foldl, List.map_cons, c.fold_cons]

/-- The formulas that were joined to the first one. -/
def spine (c : Connective) : Formula → List Formula
  | join c' left right => if c' = c then left.spine c ++ [right] else []
  | _ => []

theorem spine_foldl (f : Formula) (fs : List Formula) :
    (fs.foldl (join c) f).spine c = f.spine c ++ fs := by
  induction fs generalizing f with
  | nil => simp
  | cons g fs ih => rw [List.foldl_cons, ih, spine, if_pos rfl, List.append_assoc, List.cons_append,
      List.nil_append]

/-- From the same formula on, only the same formulas are joined to the same. -/
theorem foldl_join_inj {f : Formula} {fs gs : List Formula} :
    fs.foldl (join c) f = gs.foldl (join c) f ↔ fs = gs := by
  constructor
  · intro h
    have hspine := congrArg (spine c) h
    rwa [spine_foldl, spine_foldl, List.append_cancel_left_eq] at hspine
  · rintro rfl
    rfl

/-- Lists of formulas that bind more strongly than a connective. -/
def Stronger (c : Connective) (dss : List (List Formula)) : Prop :=
  ∀ ds ∈ dss, ds ≠ [] ∧ ∀ d ∈ ds, c.strength < d.strength

/-- A list of formulas is a single one if it binds more strongly than the connective. -/
theorem eq_singleton_of_lt {ds : List Formula} (hds : ds ≠ [])
    (h : c.strength < (joined c ds).strength) : ds = [joined c ds] := by
  obtain _ | ⟨d, _ | ⟨e, ds⟩⟩ := ds
  · exact absurd rfl hds
  · rfl
  · rw [strength_joined (by simp)] at h
    exact absurd h (Nat.lt_irrefl _)

theorem strength_le_joined {ds : List Formula} (hds : ds ≠ [])
    (h : ∀ d ∈ ds, c.strength < d.strength) : c.strength ≤ (joined c ds).strength := by
  obtain _ | ⟨d, _ | ⟨e, ds⟩⟩ := ds
  · exact absurd rfl hds
  · exact Nat.le_of_lt (h d List.mem_cons_self)
  · exact Nat.le_of_eq (strength_joined (by simp)).symm

/-- Joining lists one after the other gives their formulas exactly if each of these is a single
one. -/
theorem flatten_eq_map_iff {dss : List (List Formula)} (h : Stronger c dss) :
    dss.flatten = dss.map (joined c) ↔ ∀ g ∈ dss.map (joined c), c.strength < g.strength := by
  constructor
  · intro heq g hg
    rw [← heq] at hg
    obtain ⟨ds, hds, hg⟩ := List.mem_flatten.1 hg
    exact (h ds hds).2 g hg
  · intro hlt
    induction dss with
    | nil => rfl
    | cons ds dss ih =>
      obtain ⟨⟨hne, -⟩, hrest⟩ := List.forall_mem_cons.1 h
      rw [List.map_cons] at hlt ⊢
      obtain ⟨hds, hlt⟩ := List.forall_mem_cons.1 hlt
      rw [List.flatten_cons, ih hrest hlt, ← List.singleton_append, ← eq_singleton_of_lt hne hds]

/-- Lists that are joined one after the other are joined as their formulas are exactly if these
fit. -/
theorem joined_flatten_eq_iff {dss : List (List Formula)} (h : Stronger c dss) :
    joined c dss.flatten = joined c (dss.map (joined c)) ↔ Fits c (dss.map (joined c)) := by
  obtain _ | ⟨ds, dss⟩ := dss
  · exact iff_of_true rfl trivial
  · obtain ⟨⟨hne, hds⟩, hrest⟩ := List.forall_mem_cons.1 h
    have hle := strength_le_joined hne hds
    rw [List.flatten_cons, joined_append hne, List.map_cons]
    show List.foldl (join c) (joined c ds) dss.flatten =
      List.foldl (join c) (joined c ds) (dss.map (joined c)) ↔ _
    rw [foldl_join_inj, flatten_eq_map_iff hrest]
    cases dss with
    | nil => exact iff_of_true (fun _ hg => absurd hg List.not_mem_nil) trivial
    | cons es dss => exact ⟨fun hlt => ⟨hle, hlt⟩, fun hfits => hfits.2⟩

/-- Taken together, all formulas of all lists come to what the lists come to. -/
theorem truth_joined_flatten (σ : List Role → Truth) {dss : List (List Formula)} (hdss : dss ≠ [])
    (h : Stronger c dss) :
    (joined c dss.flatten).truth σ = c.fold ((dss.map (joined c)).map (truth σ)) := by
  have hfold : c.fold (dss.flatten.map (truth σ)) =
      c.fold ((dss.map (joined c)).map (truth σ)) := by
    clear hdss
    induction dss with
    | nil => rfl
    | cons ds dss ih =>
      obtain ⟨⟨hne, -⟩, hrest⟩ := List.forall_mem_cons.1 h
      rw [List.flatten_cons, List.map_append, c.fold_append, ih hrest, List.map_cons,
        List.map_cons, c.fold_cons, truth_joined σ hne]
  have hflatten : dss.flatten ≠ [] := by
    obtain ⟨ds, hds⟩ := List.exists_mem_of_ne_nil _ hdss
    obtain ⟨d, hd⟩ := List.exists_mem_of_ne_nil _ (h ds hds).1
    exact List.ne_nil_of_mem (List.mem_flatten.2 ⟨ds, hds, hd⟩)
  rw [truth_joined σ hflatten, hfold]

end Formula

/-! ### Cutting -/

section

variable {c : Connective} {rs : List Role}

theorem cut_append (c : Connective) (rs rs' : List Role) :
    cut c (rs ++ .join c :: rs') = cut c rs ++ cut c rs' :=
  List.splitOnP_append_cons rs rs' (beq_self_eq_true _)

theorem cut_of_not_mem (h : .join c ∉ rs) : cut c rs = [rs] := by
  refine List.splitOnP_eq_singleton fun r hr => ?_
  rw [beq_eq_false_iff_ne]
  exact ne_of_mem_of_not_mem hr h

theorem cut_ne_nil (c : Connective) (rs : List Role) : cut c rs ≠ [] :=
  List.splitOnP_ne_nil _ rs

/-- A condition is cut exactly where the connective stands. -/
theorem one_lt_length_cut (h : .join c ∈ rs) : 1 < (cut c rs).length := by
  obtain ⟨front, back, rfl⟩ := List.append_of_mem h
  have hfront := List.length_pos_of_ne_nil (cut_ne_nil c front)
  have hback := List.length_pos_of_ne_nil (cut_ne_nil c back)
  rw [cut_append, List.length_append]
  omega

/-- A property of conditions without the connective that is kept by joining holds of all. -/
theorem cut_induction (c : Connective) {P : List Role → Prop}
    (hnone : ∀ rs, .join c ∉ rs → P rs)
    (hjoin : ∀ front back, P front → P back → P (front ++ .join c :: back)) (rs : List Role) :
    P rs := by
  induction hn : rs.length using Nat.strongRecOn generalizing rs with
  | ind n ih =>
    by_cases hmem : .join c ∈ rs
    · obtain ⟨front, back, rfl⟩ := List.append_of_mem hmem
      rw [List.length_append, List.length_cons] at hn
      exact hjoin front back (ih front.length (by omega) front rfl)
        (ih back.length (by omega) back rfl)
    · exact hnone rs hmem

/-- What is cut off has none of the connectives that were cut at. -/
theorem not_mem_of_mem_cut : ∀ seg ∈ cut c rs, .join c ∉ seg ∧ seg ⊆ rs := by
  induction rs using cut_induction c with
  | hnone rs hmem =>
    intro seg h
    rw [cut_of_not_mem hmem, List.mem_singleton] at h
    subst h
    exact ⟨hmem, List.Subset.refl _⟩
  | hjoin front back ihfront ihback =>
    intro seg h
    rw [cut_append, List.mem_append] at h
    rcases h with h | h
    · obtain ⟨hnone, hsub⟩ := ihfront seg h
      exact ⟨hnone, List.Subset.trans hsub (List.subset_append_left _ _)⟩
    · obtain ⟨hnone, hsub⟩ := ihback seg h
      have hback : back ⊆ front ++ .join c :: back :=
        List.subset_append_of_subset_right front (List.subset_cons_self (.join c) back)
      exact ⟨hnone, List.Subset.trans hsub hback⟩

end

/-! ### Which conditions can be read -/

/-- Whether an operand stands wherever one is expected, as it is at the start or is not. -/
def isComplete : Bool → List Role → Bool
  | expected, [] => !expected
  | true, .join _ :: _ => false
  | false, .join _ :: rs => isComplete true rs
  | expected, .not :: rs => isComplete expected rs
  | _, .compare _ :: rs | _, .test :: rs | _, .operand _ :: rs => isComplete false rs

theorem isComplete_append (expected : Bool) (rs : List Role) (c : Connective) (rs' : List Role) :
    isComplete expected (rs ++ .join c :: rs') =
      (isComplete expected rs && isComplete true rs') := by
  induction rs generalizing expected with
  | nil => cases expected <;> rfl
  | cons r rs ih =>
    cases r with
    | join d =>
      cases expected with
      | true => rfl
      | false => exact ih true
    | not => cases expected <;> exact ih _
    | compare _ | test | operand _ => cases expected <;> exact ih false

/-- Without connectives, what has begun is complete. -/
theorem isComplete_false {rs : List Role} (h : ∀ c, .join c ∉ rs) : isComplete false rs = true := by
  induction rs with
  | nil => rfl
  | cons r rs ih =>
    have hrest : ∀ c, Role.join c ∉ rs := fun c hc => h c (List.mem_cons_of_mem r hc)
    cases r with
    | join c => exact absurd List.mem_cons_self (h c)
    | not | compare _ | test | operand _ => exact ih hrest

theorem isSome_readOperand_iff {rs : List Role} (h : ∀ c, .join c ∉ rs) :
    (readOperand rs).isSome = true ↔ isComplete true rs = true := by
  induction rs with
  | nil => exact iff_of_false (by decide) (by decide)
  | cons r rs ih =>
    have hrest : ∀ c, Role.join c ∉ rs := fun c hc => h c (List.mem_cons_of_mem r hc)
    cases r with
    | join c => exact absurd List.mem_cons_self (h c)
    | not =>
      rw [readOperand, Option.isSome_map]
      exact ih hrest
    | compare _ | test | operand _ => exact iff_of_true rfl (isComplete_false hrest)

/-- A condition is complete if all is that is between its connectives. -/
theorem forall_cut_isComplete (c : Connective) (rs : List Role) :
    (∀ seg ∈ cut c rs, isComplete true seg = true) ↔ isComplete true rs = true := by
  induction rs using cut_induction c with
  | hnone rs hmem => rw [cut_of_not_mem hmem, List.forall_mem_singleton]
  | hjoin front back ihfront ihback =>
    rw [cut_append, List.forall_mem_append, ihfront, ihback, isComplete_append, Bool.and_eq_true]

theorem isSome_readCut_iff {c : Connective} {read : List Role → Option Formula} {rs : List Role}
    (h : ∀ seg ∈ cut c rs, (read seg).isSome = true ↔ isComplete true seg = true) :
    (readCut c read rs).isSome = true ↔ isComplete true rs = true := by
  rw [← forall_cut_isComplete c rs, readCut, Option.isSome_map, isSome_mapM_iff]
  exact forall₂_congr h

/-- A condition can be read exactly if an operand stands wherever one is expected. -/
theorem isSome_readRoles_iff (rs : List Role) :
    (readRoles rs).isSome = true ↔ isComplete true rs = true := by
  refine isSome_readCut_iff fun seg hseg => isSome_readCut_iff fun seg' hseg' => ?_
  obtain ⟨hor, -⟩ := not_mem_of_mem_cut seg hseg
  obtain ⟨hand, hsub⟩ := not_mem_of_mem_cut seg' hseg'
  refine isSome_readOperand_iff fun c hc => ?_
  cases c with
  | or => exact hor (hsub hc)
  | and => exact hand hc

/-! ### How strongly a condition binds -/

section

variable {c : Connective} {rs : List Role} {f : Formula}

theorem readCut_of_not_mem (read : List Role → Option Formula) (h : .join c ∉ rs) :
    readCut c read rs = read rs := by
  rw [readCut, cut_of_not_mem h]
  cases hread : read rs with
  | none => simp [hread]
  | some f => simp [hread, joined]

/-- A condition with a connective of a kind binds as strongly as the connective; any other one is
what stands between them. -/
theorem readCut_cases {read : List Role → Option Formula} (h : readCut c read rs = some f) :
    (.join c ∈ rs ∧ f.strength = c.strength) ∨ (.join c ∉ rs ∧ read rs = some f) := by
  by_cases hmem : .join c ∈ rs
  · obtain ⟨fs, hfs, rfl⟩ := Option.map_eq_some_iff.1 h
    have hlength := (mapM_eq_some_iff.1 hfs).length_eq
    have hcut := one_lt_length_cut hmem
    exact .inl ⟨hmem, strength_joined (by omega)⟩
  · rw [readCut_of_not_mem read hmem] at h
    exact .inr ⟨hmem, h⟩

theorem le_of_readOperand (h : readOperand rs = some f) : negationStrength ≤ f.strength := by
  unfold readOperand at h
  split at h
  · exact (nomatch h)
  · obtain ⟨g, -, rfl⟩ := Option.map_eq_some_iff.1 h
    exact Nat.le_refl _
  · cases h
    exact Nat.le_succ _

/-- What is read between connectives of a kind binds more strongly than these. -/
theorem lt_of_readBetween (h : readBetween c rs = some f) : c.strength < f.strength := by
  cases c with
  | and => exact le_of_readOperand h
  | or =>
    obtain ⟨-, hstrength⟩ | ⟨-, hoperand⟩ := readCut_cases h
    · rw [hstrength]
      decide
    · have hle := le_of_readOperand hoperand
      exact Nat.lt_of_lt_of_le (by decide) hle

/-- A condition that binds at least as strongly as a connective is read by cutting there. -/
theorem readCut_of_le (h : readRoles rs = some f) (hle : c.strength ≤ f.strength) :
    readCut c (readBetween c) rs = some f := by
  cases c with
  | or => exact h
  | and =>
    obtain ⟨-, hstrength⟩ | ⟨-, hconjunction⟩ := readCut_cases h
    · rw [hstrength] at hle
      exact absurd hle (by decide)
    · exact hconjunction

/-- A condition without connectives is an operand or a negated one. -/
theorem readRoles_of_not_mem (h : ∀ c, .join c ∉ rs) : readRoles rs = readOperand rs := by
  rw [readRoles, readCut_of_not_mem _ (h .or), readBetween, readCut_of_not_mem _ (h .and)]

/-- A condition binds as strongly as the weakest connective in it. -/
theorem strength_le_iff (h : readRoles rs = some f) (c : Connective) :
    f.strength ≤ c.strength ↔ ∃ d : Connective, d.strength ≤ c.strength ∧ .join d ∈ rs := by
  obtain ⟨hor, hstrength⟩ | ⟨hor, h⟩ := readCut_cases h
  · rw [hstrength]
    exact iff_of_true (by cases c <;> decide) ⟨.or, by cases c <;> decide, hor⟩
  · obtain ⟨hand, hstrength⟩ | ⟨hand, h⟩ := readCut_cases h
    · rw [hstrength]
      cases c with
      | and => exact iff_of_true (by decide) ⟨.and, by decide, hand⟩
      | or =>
        refine iff_of_false (by decide) ?_
        rintro ⟨d, hd, hmem⟩
        cases d with
        | or => exact hor hmem
        | and => exact absurd hd (by decide)
    · have hlt : c.strength < negationStrength := by cases c <;> decide
      have hle := le_of_readOperand h
      refine iff_of_false (by omega) ?_
      rintro ⟨d, -, hmem⟩
      cases d with
      | or => exact hor hmem
      | and => exact hand hmem

end

/-! ### Conditions that are joined -/

/-- Conditions with a connective between any two of them. -/
def Role.joined (c : Connective) : List (List Role) → List Role
  | [] => []
  | rs :: rest => rs ++ rest.flatMap (.join c :: ·)

section

variable {c : Connective} {rss : List (List Role)} {fs : List Formula}

theorem Role.joined_cons_cons (c : Connective) (rs rs' : List Role) (rest : List (List Role)) :
    Role.joined c (rs :: rs' :: rest) = rs ++ .join c :: Role.joined c (rs' :: rest) := by
  simp [Role.joined]

theorem cut_joined (hne : rss ≠ []) : cut c (Role.joined c rss) = rss.flatMap (cut c) := by
  induction rss with
  | nil => exact absurd rfl hne
  | cons rs rest ih =>
    cases rest with
    | nil => simp [Role.joined]
    | cons rs' rest =>
      rw [Role.joined_cons_cons, cut_append, ih (List.cons_ne_nil _ _), ← List.flatMap_cons]

theorem subset_joined {rs : List Role} (h : rs ∈ rss) : rs ⊆ Role.joined c rss := by
  induction rss with
  | nil => exact absurd h List.not_mem_nil
  | cons rs' rest ih =>
    cases rest with
    | nil =>
      obtain rfl := List.mem_singleton.1 h
      simp [Role.joined]
    | cons rs'' rest =>
      rw [Role.joined_cons_cons]
      rcases List.mem_cons.1 h with rfl | h
      · exact List.subset_append_left _ _
      · exact List.subset_append_of_subset_right rs'
          (List.subset_cons_of_subset (.join c) (ih h))

theorem isComplete_joined (hne : rss ≠ []) (h : ∀ rs ∈ rss, isComplete true rs = true) :
    isComplete true (Role.joined c rss) = true := by
  induction rss with
  | nil => exact absurd rfl hne
  | cons rs rest ih =>
    obtain ⟨hrs, hrest⟩ := List.forall_mem_cons.1 h
    cases rest with
    | nil => simpa [Role.joined] using hrs
    | cons rs' rest =>
      rw [Role.joined_cons_cons, isComplete_append, hrs, ih (List.cons_ne_nil _ _) hrest]
      rfl

/-- What is read from conditions that are cut is joined from what stands between. -/
theorem exists_cuts
    (h : List.Forall₂ (fun rs f => readCut c (readBetween c) rs = some f) rss fs) :
    ∃ dss, fs = dss.map (joined c) ∧ Stronger c dss ∧
      List.Forall₂ (fun rs ds => (cut c rs).mapM (readBetween c) = some ds) rss dss := by
  induction h with
  | nil => exact ⟨[], rfl, fun ds hds => absurd hds List.not_mem_nil, .nil⟩
  | cons hf _ ih =>
    obtain ⟨dss, rfl, hstronger, hdss⟩ := ih
    obtain ⟨ds, hds, rfl⟩ := Option.map_eq_some_iff.1 hf
    have hread := mapM_eq_some_iff.1 hds
    refine ⟨ds :: dss, rfl, List.forall_mem_cons.2 ⟨⟨?_, fun d hd => ?_⟩, hstronger⟩,
      .cons hds hdss⟩
    · rintro rfl
      exact cut_ne_nil c _ (List.forall₂_nil_right_iff.1 hread)
    · obtain ⟨seg, -, hseg⟩ := exists_of_mem_right hread hd
      exact lt_of_readBetween hseg

theorem mapM_flatMap_cut {dss : List (List Formula)}
    (h : List.Forall₂ (fun rs ds => (cut c rs).mapM (readBetween c) = some ds) rss dss) :
    (rss.flatMap (cut c)).mapM (readBetween c) = some dss.flatten := by
  rw [mapM_eq_some_iff]
  induction h with
  | nil => exact .nil
  | cons hds _ ih =>
    rw [List.flatMap_cons, List.flatten_cons]
    exact List.rel_append (mapM_eq_some_iff.1 hds) ih

/-- Conditions that are cut at the connective between them are cut together. -/
theorem exists_readCut_joined
    (h : List.Forall₂ (fun rs f => readCut c (readBetween c) rs = some f) rss fs)
    (hne : rss ≠ []) :
    ∃ dss, fs = dss.map (joined c) ∧ dss ≠ [] ∧ Stronger c dss ∧
      readCut c (readBetween c) (Role.joined c rss) = some (joined c dss.flatten) := by
  obtain ⟨dss, hfs, hstronger, hdss⟩ := exists_cuts h
  have hdss_ne : dss ≠ [] := by
    rintro rfl
    exact hne (List.forall₂_nil_right_iff.1 hdss)
  refine ⟨dss, hfs, hdss_ne, hstronger, ?_⟩
  rw [readCut, cut_joined hne, mapM_flatMap_cut hdss]
  rfl

/-- A connective in conditions that are joined stands between them or in one of them. -/
theorem mem_joined {d : Connective} (h : .join d ∈ Role.joined c rss) :
    d = c ∨ ∃ rs ∈ rss, .join d ∈ rs := by
  induction rss with
  | nil => exact absurd h List.not_mem_nil
  | cons rs rest ih =>
    cases rest with
    | nil => exact .inr ⟨rs, List.mem_cons_self, by simpa [Role.joined] using h⟩
    | cons rs' rest =>
      rw [Role.joined_cons_cons, List.mem_append, List.mem_cons] at h
      obtain h | h | h := h
      · exact .inr ⟨rs, List.mem_cons_self, h⟩
      · exact .inl (Role.join.inj h)
      · obtain heq | ⟨rs'', hrs, hmem⟩ := ih h
        · exact .inl heq
        · exact .inr ⟨rs'', List.mem_cons_of_mem rs hrs, hmem⟩

theorem isComplete_of_readRoles {rs : List Role} {f : Formula} (h : readRoles rs = some f) :
    isComplete true rs = true := by
  rw [← isSome_readRoles_iff, h]
  rfl

/-- Only a disjunction binds less strongly than a connective. -/
theorem le_or_of_lt {f : Formula} (h : f.strength < c.strength) :
    f.strength ≤ Connective.or.strength ∧ c = .and := by
  cases c with
  | and => exact ⟨Nat.le_of_lt_succ h, rfl⟩
  | or =>
    have hpos : 1 ≤ f.strength := by
      cases f with
      | operand _ | not _ => exact Nat.le_add_left _ _
      | join d _ _ => exact d.strength_pos
    exact absurd h (Nat.not_lt.2 hpos)

/-- Conditions that bind at least as strongly as the connective between them are cut there. -/
theorem readRoles_joined_of_le (h : List.Forall₂ (fun rs f => readRoles rs = some f) rss fs)
    (hne : rss ≠ []) (hle : ∀ g ∈ fs, c.strength ≤ g.strength) {f : Formula}
    (hf : readRoles (Role.joined c rss) = some f) :
    ∃ dss, fs = dss.map (joined c) ∧ dss ≠ [] ∧ Stronger c dss ∧ f = joined c dss.flatten := by
  have hcut : List.Forall₂ (fun rs f => readCut c (readBetween c) rs = some f) rss fs := by
    have hboth := (List.forall₂_and_left (p := fun g => c.strength ≤ g.strength) _ _).2
      ⟨hle, h.flip⟩
    exact hboth.flip.imp fun rs g hg => readCut_of_le hg.2 hg.1
  obtain ⟨dss, hfs, hdss, hstronger, hread⟩ := exists_readCut_joined hcut hne
  -- No condition has a connective that binds less strongly.
  have hlef : c.strength ≤ f.strength := by
    by_contra hlt
    obtain ⟨hor, rfl⟩ := le_or_of_lt (Nat.lt_of_not_le hlt)
    obtain ⟨d, hd, hmem⟩ := (strength_le_iff hf .or).1 hor
    obtain rfl | ⟨rs, hrs, hmem⟩ := mem_joined hmem
    · exact absurd hd (by decide)
    · obtain ⟨g, hg, hread⟩ := exists_of_mem_right h.flip hrs
      have hweak := (strength_le_iff hread .or).2 ⟨d, hd, hmem⟩
      exact absurd (Nat.le_trans (hle g hg) hweak) (by decide)
  exact ⟨dss, hfs, hdss, hstronger,
    Option.some.inj ((readCut_of_le hf hlef).symm.trans hread)⟩

/-- Among several conditions one that binds less strongly than the connective does not fit and is
pulled apart. -/
theorem joined_eq_iff_of_lt (h : List.Forall₂ (fun rs f => readRoles rs = some f) rss fs)
    {f g : Formula} (hf : readRoles (Role.joined c rss) = some f) (hg : g ∈ fs)
    (hlt : g.strength < c.strength) : f = joined c fs ↔ Fits c fs := by
  obtain ⟨hor, rfl⟩ := le_or_of_lt hlt
  -- It is a disjunction, and makes one of the whole.
  obtain ⟨rs, hrs, hread⟩ := exists_of_mem_right h hg
  obtain ⟨d, hd, hmem⟩ := (strength_le_iff hread .or).1 hor
  have hweak := (strength_le_iff hf .or).2 ⟨d, hd, subset_joined hrs hmem⟩
  obtain _ | ⟨g₁, _ | ⟨g₂, gs⟩⟩ := fs
  · exact absurd hg List.not_mem_nil
  · obtain _ | ⟨h₁, ⟨⟩⟩ := h
    rw [Role.joined, List.flatMap_nil, List.append_nil, h₁] at hf
    exact iff_of_true (Option.some.inj hf).symm trivial
  · refine iff_of_false (fun heq => ?_) fun hfits => ?_
    · rw [heq, strength_joined (by simp)] at hweak
      exact absurd hweak (by decide)
    · rcases List.mem_cons.1 hg with rfl | hg
      · exact absurd hlt (Nat.not_lt.2 hfits.1)
      · exact absurd hlt (Nat.lt_asymm (hfits.2 g hg))

/-- Conditions that are joined can be read. They are read as they were joined exactly if they fit,
and where all of them bind at least as strongly as the connective, what is read comes to all of them
taken together. -/
theorem readRoles_joined (c : Connective)
    (h : List.Forall₂ (fun rs f => readRoles rs = some f) rss fs) (hne : rss ≠ []) :
    ∃ f, readRoles (Role.joined c rss) = some f ∧ (f = joined c fs ↔ Fits c fs) ∧
      ((∀ g ∈ fs, c.strength ≤ g.strength) → ∀ σ, f.truth σ = c.fold (fs.map (truth σ))) := by
  have hcomplete : isComplete true (Role.joined c rss) = true := by
    refine isComplete_joined hne fun rs hrs => ?_
    obtain ⟨g, -, hg⟩ := exists_of_mem_right h.flip hrs
    exact isComplete_of_readRoles hg
  obtain ⟨f, hf⟩ := Option.isSome_iff_exists.1 ((isSome_readRoles_iff _).2 hcomplete)
  refine ⟨f, hf, ?_, fun hle σ => ?_⟩
  · by_cases hle : ∀ g ∈ fs, c.strength ≤ g.strength
    · obtain ⟨dss, rfl, -, hstronger, rfl⟩ := readRoles_joined_of_le h hne hle hf
      exact joined_flatten_eq_iff hstronger
    · obtain ⟨g, hg, hlt⟩ : ∃ g ∈ fs, g.strength < c.strength := by simpa using hle
      exact joined_eq_iff_of_lt h hf hg hlt
  · obtain ⟨dss, rfl, hdss, hstronger, rfl⟩ := readRoles_joined_of_le h hne hle hf
    exact truth_joined_flatten σ hdss hstronger

/-- A condition behind a NOT can be read. It is read as negated exactly if it binds at least as
strongly as a negation. -/
theorem readRoles_not {rs : List Role} {f : Formula} (h : readRoles rs = some f) :
    ∃ f', readRoles (.not :: rs) = some f' ∧ (f' = .not f ↔ negationStrength ≤ f.strength) := by
  have hcomplete : isComplete true (.not :: rs) = true := by
    rw [isComplete]
    exact isComplete_of_readRoles h
  obtain ⟨f', hf'⟩ := Option.isSome_iff_exists.1 ((isSome_readRoles_iff _).2 hcomplete)
  refine ⟨f', hf', ?_⟩
  have hmem : ∀ d, .join d ∈ Role.not :: rs ↔ .join d ∈ rs := fun d => by simp
  have hweak : ∀ c : Connective, f'.strength ≤ c.strength ↔ f.strength ≤ c.strength := fun c => by
    rw [strength_le_iff hf' c, strength_le_iff h c]
    simp only [hmem]
  by_cases hle : negationStrength ≤ f.strength
  · refine iff_of_true ?_ hle
    -- There is no connective to cut at.
    have hnone : ∀ c, .join c ∉ rs := by
      intro c hc
      have hstrength := (strength_le_iff h .and).2 ⟨c, by cases c <;> decide, hc⟩
      exact absurd (Nat.le_trans hle hstrength) (by decide)
    rw [readRoles_of_not_mem fun c => (hmem c).not.2 (hnone c), readOperand,
      ← readRoles_of_not_mem hnone, h] at hf'
    exact (Option.some.inj hf').symm
  · refine iff_of_false (fun heq => ?_) hle
    have hand := (hweak .and).2 (Nat.le_of_lt_succ (Nat.lt_of_not_le hle))
    rw [heq] at hand
    exact absurd hand (show ¬negationStrength ≤ Connective.and.strength by decide)

end

end TypedTable
