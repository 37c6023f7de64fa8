import Mathlib.Data.List.Forall2
import Mathlib.Tactic.Ring
import TypedTable.Query.Insert.Batch
/-!
# Equality of keys

`Value.same` is symmetric and transitive, and so is the comparison of keys member by member. It is
not reflexive: a not-a-number is not the same as itself.
-/

namespace TypedTable

/-! ### Values -/

theorem Decimal.same_iff {a b : Decimal} :
    a.same b = true ↔ a.signed * Nat.pow 10 b.scale = b.signed * Nat.pow 10 a.scale :=
  beq_iff_eq

/-- Both sides are multiplied by the scale of the number in the middle, which is then divided
away. -/
theorem Decimal.same_trans {a b c : Decimal} (h : a.same b = true) (h' : b.same c = true) :
    a.same c = true := by
  rw [same_iff] at h h' ⊢
  have hpos : ((Nat.pow 10 b.scale : Nat) : Int) ≠ 0 := by
    have hpow : 0 < Nat.pow 10 b.scale := Nat.pow_pos (by decide)
    omega
  refine mul_right_cancel₀ hpos ?_
  calc a.signed * Nat.pow 10 c.scale * Nat.pow 10 b.scale
      = a.signed * Nat.pow 10 b.scale * Nat.pow 10 c.scale := by ring
    _ = b.signed * Nat.pow 10 c.scale * Nat.pow 10 a.scale := by rw [h]; ring
    _ = c.signed * Nat.pow 10 a.scale * Nat.pow 10 b.scale := by rw [h']; ring

theorem Timestamp.same_iff {a b : Timestamp} :
    a.same b = true ↔ a.utcSecond = b.utcSecond ∧ a.clock.nano = b.clock.nano := by
  rw [same, Bool.and_eq_true, beq_iff_eq, beq_iff_eq]

theorem Double.same_iff {x y : Double} :
    x.same y = true ↔
      x.isNaN = false ∧ y.isNaN = false ∧ (x = y ∨ x.isZero = true ∧ y.isZero = true) := by
  have hbits : x.bits = y.bits ↔ x = y := by
    constructor
    · intro h
      cases x
      cases y
      cases h
      rfl
    · intro h
      rw [h]
  simp [same, hbits, and_assoc]

namespace Value

/-- Values that are the same are equal, or are floating-point numbers, decimals or timestamps that
are the same. -/
inductive SameCases : Value → Value → Prop
  | refl (a : Value) : SameCases a a
  | double {x y : Double} (h : x.same y = true) : SameCases (.double x) (.double y)
  | numeric {a b : Decimal} (h : a.same b = true) : SameCases (.numeric a) (.numeric b)
  | timestamp {a b : Timestamp} (h : a.same b = true) : SameCases (.timestamp a) (.timestamp b)

theorem same_cases {a b : Value} (h : a.same b = true) : SameCases a b := by
  unfold same at h
  split at h
  · exact .double h
  · exact .numeric h
  · exact .timestamp h
  · exact of_decide_eq_true h ▸ .refl _

theorem same_symm {a b : Value} (h : a.same b = true) : b.same a = true := by
  cases same_cases h with
  | refl => exact h
  | double hxy =>
    obtain ⟨hx, hy, heq⟩ := Double.same_iff.1 hxy
    exact Double.same_iff.2 ⟨hy, hx, heq.imp Eq.symm And.symm⟩
  | numeric hab => exact Decimal.same_iff.2 (Decimal.same_iff.1 hab).symm
  | timestamp hab =>
    obtain ⟨hsecond, hnano⟩ := Timestamp.same_iff.1 hab
    exact Timestamp.same_iff.2 ⟨hsecond.symm, hnano.symm⟩

theorem same_trans {a b c : Value} (h : a.same b = true) (h' : b.same c = true) :
    a.same c = true := by
  cases same_cases h with
  | refl => exact h'
  | @double x y hxy =>
    cases c with
    | double z =>
      obtain ⟨hx, -, heq⟩ := Double.same_iff.1 hxy
      obtain ⟨-, hz, heq'⟩ := Double.same_iff.1 h'
      refine Double.same_iff.2 ⟨hx, hz, ?_⟩
      -- Equal words are the same, and so are any two zeros.
      rcases heq with rfl | ⟨hzx, hzy⟩
      · exact heq'
      · rcases heq' with rfl | ⟨-, hzz⟩
        · exact .inr ⟨hzx, hzy⟩
        · exact .inr ⟨hzx, hzz⟩
    | _ => cases h'
  | numeric hab =>
    cases c with
    | numeric c => exact Decimal.same_trans hab h'
    | _ => cases h'
  | timestamp hab =>
    cases c with
    | timestamp c =>
      obtain ⟨hsecond, hnano⟩ := Timestamp.same_iff.1 hab
      obtain ⟨hsecond', hnano'⟩ := Timestamp.same_iff.1 h'
      exact Timestamp.same_iff.2 ⟨hsecond.trans hsecond', hnano.trans hnano'⟩
    | _ => cases h'

/-- Values other than floating-point numbers are the same as themselves. -/
theorem same_self {v : Value} (h : ∀ x, v ≠ .double x) : v.same v = true := by
  cases v with
  | double x => exact absurd rfl (h x)
  | numeric d => exact Decimal.same_iff.2 rfl
  | timestamp t => exact Timestamp.same_iff.2 ⟨rfl, rfl⟩
  | _ => simp [same]

end Value

/-! ### Keys -/

/-- Keys are the same if they are so member by member. -/
theorem sameKey_iff {as bs : List Value} :
    Batch.sameKey as bs = true ↔ List.Forall₂ (fun a b => a.same b = true) as bs := by
  induction as generalizing bs with
  | nil =>
    cases bs with
    | nil => exact ⟨fun _ => .nil, fun _ => rfl⟩
    | cons b bs => exact ⟨fun h => (nomatch h), fun h => (nomatch h)⟩
  | cons a as ih =>
    cases bs with
    | nil => exact ⟨fun h => (nomatch h), fun h => (nomatch h)⟩
    | cons b bs => rw [Batch.sameKey, Bool.and_eq_true, ih, List.forall₂_cons]

theorem sameKey_self {as : List Value} (h : ∀ a ∈ as, a.same a = true) :
    Batch.sameKey as as = true :=
  sameKey_iff.2 (List.forall₂_same.2 h)

theorem sameKey_symm {as bs : List Value} (h : Batch.sameKey as bs = true) :
    Batch.sameKey bs as = true :=
  sameKey_iff.2 ((sameKey_iff.1 h).flip.imp fun _ _ => Value.same_symm)

theorem sameKey_trans {as bs cs : List Value} (h : Batch.sameKey as bs = true)
    (h' : Batch.sameKey bs cs = true) : Batch.sameKey as cs = true := by
  rw [sameKey_iff] at h h' ⊢
  induction h generalizing cs with
  | nil => exact h'
  | cons hab _ ih =>
    cases h' with
    | cons hbc hrest => exact .cons (Value.same_trans hab hbc) (ih hrest)

end TypedTable
