import TypedTable.Proofs.Numeral
import TypedTable.Proofs.Precision
/-!
# Numbers that are given as texts

A number that is written out is rounded twice: to the digits that a decimal has room for, and from
there to the grid of the type. The second rounding undoes the first one, unless the first one rounds
up to a number at which the type goes over to its next one (`SqlType.Jumps`,
`floor_rounded_eq_iff`).

`SqlType.takesExactly_iff` says what a type of numbers makes of such a text, and for which texts
this is what it would store for the number itself (`SqlType.TakesExactly`).
-/

namespace TypedTable

/-! ### Rounding twice -/

section Twice

variable {x h : ℚ} {j : ℕ}

/-- Rounding to places in which the step `h` can be written passes no integer downwards. -/
theorem floor_le_floor_rounded (hh : ∃ c : ℤ, h * 10 ^ j = c) :
    ⌊x + h⌋ ≤ ⌊(⌊x * 10 ^ j + 1 / 2⌋ : ℚ) / 10 ^ j + h⌋ := by
  obtain ⟨c, hc⟩ := hh
  have hpos : (0 : ℚ) < 10 ^ j := by positivity
  have hfloor := Int.floor_le (x + h)
  have hscaled : ((⌊x + h⌋ * 10 ^ j - c : ℤ) : ℚ) ≤ x * 10 ^ j := by
    push_cast
    rw [← hc, ← sub_mul]
    gcongr
    linarith
  have hle : ⌊x + h⌋ * 10 ^ j - c ≤ ⌊x * 10 ^ j + 1 / 2⌋ := Int.le_floor.2 (by linarith)
  rw [Int.le_floor, ← sub_le_iff_le_add, le_div_iff₀ hpos, sub_mul, hc]
  exact_mod_cast hle

/-- Rounding to such places passes an integer upwards only if it ends there. -/
theorem floor_rounded_eq_iff (hh : ∃ c : ℤ, h * 10 ^ j = c) :
    ⌊(⌊x * 10 ^ j + 1 / 2⌋ : ℚ) / 10 ^ j + h⌋ = ⌊x + h⌋ ↔
      ¬(x < (⌊x * 10 ^ j + 1 / 2⌋ : ℚ) / 10 ^ j ∧
        ∃ z : ℤ, (⌊x * 10 ^ j + 1 / 2⌋ : ℚ) / 10 ^ j + h = z) := by
  have hpos : (0 : ℚ) < 10 ^ j := by positivity
  have hle := @floor_le_floor_rounded x h j hh
  obtain ⟨c, hc⟩ := hh
  have hhalf := Int.floor_le (x * 10 ^ j + 1 / 2)
  generalize hm : ⌊x * 10 ^ j + 1 / 2⌋ = m at *
  constructor
  · rintro heq ⟨hlt, z, hz⟩
    rw [hz, Int.floor_intCast] at heq
    have hfloor := Int.floor_le (x + h)
    rw [← heq] at hfloor
    linarith
  · intro hnot
    by_contra hne
    have hgt : ⌊x + h⌋ < ⌊(m : ℚ) / 10 ^ j + h⌋ := lt_of_le_of_ne hle (Ne.symm hne)
    generalize hz : ⌊(m : ℚ) / 10 ^ j + h⌋ = z at *
    have hlow : z ≤ (m : ℚ) / 10 ^ j + h := hz ▸ Int.floor_le _
    have hhigh : x + h < z := Int.floor_lt.1 hgt
    -- The integer is a number of these places too, so what is rounded does not go beyond it.
    have hscaled : x * 10 ^ j < ((z * 10 ^ j - c : ℤ) : ℚ) := by
      push_cast
      rw [← hc, ← sub_mul]
      gcongr
      linarith
    have hmle : m ≤ z * 10 ^ j - c := by
      have : (m : ℚ) < ((z * 10 ^ j - c : ℤ) : ℚ) + 1 := by linarith
      exact Int.lt_add_one_iff.1 (by exact_mod_cast this)
    have hupper : (m : ℚ) / 10 ^ j ≤ z - h := by
      rw [div_le_iff₀ hpos, sub_mul, hc]
      exact_mod_cast hmle
    exact hnot ⟨by linarith, z, by linarith⟩

end Twice

namespace SqlType

variable {t : SqlType} {x y : ℚ}

/-- Whether a type goes over to its next number, away from zero, at this one: at the integers if it
cuts the fraction off, and halfway between two numbers of its grid if it rounds. -/
def Jumps : SqlType → ℚ → Prop
  | numeric p, x => ∃ z : ℤ, |x| * 10 ^ p.scale = z + 1 / 2
  | _, x => ∃ z : ℤ, x = z

/-- How far below an integer, on its grid, a type takes a number to be that integer. -/
def lead : SqlType → ℚ
  | numeric _ => 1 / 2
  | _ => 0

theorem lead_of_ne_zero (h : t.lead ≠ 0) : t.lead = 1 / 2 := by
  cases t with
  | numeric p => rfl
  | _ => exact absurd rfl h

/-- What a type stores for a number that is not negative, in one formula. -/
theorem nearest?_of_nonneg (ht : t.range?.isSome = true) (hx : 0 ≤ x) :
    t.nearest? x = some (⌊x * 10 ^ t.places + t.lead⌋ / 10 ^ t.places : ℚ) := by
  cases t with
  | numeric p =>
    have hscaled : 0 ≤ x * 10 ^ p.scale := by positivity
    rw [nearest?, nearestAway_of_nonneg hscaled]
    rfl
  | smallInt | integer | smallSerial | serial =>
    rw [nearest?, wholePart_of_nonneg hx]
    simp [places, lead]
  | _ => cases ht

/-- Where a type goes over to its next number, in one formula. -/
theorem jumps_iff (t : SqlType) (x : ℚ) :
    t.Jumps x ↔ ∃ z : ℤ, |x| * 10 ^ t.places + t.lead = z := by
  have hinteger : (∃ z : ℤ, x = z) ↔ ∃ z : ℤ, |x| * 10 ^ 0 + 0 = z := by
    rw [pow_zero, mul_one, add_zero]
    constructor
    · rintro ⟨z, rfl⟩
      exact ⟨|z|, by rw [Int.cast_abs]⟩
    · rintro ⟨z, hz⟩
      rcases abs_choice x with hx | hx
      · exact ⟨z, by rw [← hx, hz]⟩
      · exact ⟨-z, by rw [Int.cast_neg, ← hz, hx, neg_neg]⟩
  cases t with
  | numeric p =>
    constructor
    · rintro ⟨z, hz⟩
      refine ⟨z + 1, ?_⟩
      show |x| * 10 ^ p.scale + 1 / 2 = _
      rw [hz]
      push_cast
      ring
    · rintro ⟨z, hz⟩
      refine ⟨z - 1, ?_⟩
      have hz : |x| * 10 ^ p.scale + 1 / 2 = z := hz
      push_cast
      linarith
  | _ => exact hinteger

theorem includes_zero (t : SqlType) : t.Includes 0 := by
  intro low high hrange
  cases t with
  | numeric p =>
    obtain ⟨rfl, rfl⟩ := Prod.mk.inj (Option.some.inj hrange)
    have hpos : (1 : ℚ) ≤ 10 ^ p.digits := one_le_pow₀ (by norm_num)
    have hgreatest : (0 : ℚ) ≤ 10 ^ (p.digits - p.scale) - 1 / 10 ^ p.scale := by
      rw [greatest_eq]
      exact div_nonneg (by linarith) (by positivity)
    exact ⟨by linarith, hgreatest⟩
  | smallInt | integer | smallSerial | serial =>
    obtain ⟨rfl, rfl⟩ := Prod.mk.inj (Option.some.inj hrange)
    norm_num
  | _ => cases hrange

/-- With a number all numbers between zero and it are in a range. -/
theorem includes_of_between (h : t.Includes y) (hxy : 0 ≤ x ∧ x ≤ y ∨ y ≤ x ∧ x ≤ 0) :
    t.Includes x := by
  intro low high hrange
  obtain ⟨hlow, hhigh⟩ := h low high hrange
  obtain ⟨hleast, hmost⟩ := t.includes_zero low high hrange
  rcases hxy with ⟨hx, hle⟩ | ⟨hle, hx⟩
  · exact ⟨by linarith, by linarith⟩
  · exact ⟨by linarith, by linarith⟩

/-! ### Texts of too many digits -/

/-- The step of a type can be written in the places behind its own, of which a numeric type needs at
least one. -/
theorem exists_lead_mul (t : SqlType) {j : ℕ} (h : t.lead = 0 ∨ 0 < j) :
    ∃ c : ℤ, t.lead * 10 ^ j = c := by
  by_cases hzero : t.lead = 0
  · exact ⟨0, by rw [hzero, zero_mul, Int.cast_zero]⟩
  · obtain ⟨i, rfl⟩ := Nat.exists_eq_add_of_le' (h.resolve_left hzero)
    refine ⟨5 * 10 ^ i, ?_⟩
    rw [lead_of_ne_zero hzero, pow_succ]
    push_cast
    ring

/-- A type stores the same for a number and for that number rounded to no fewer places than it
stores, unless it goes over to its next number where the rounding ends. -/
theorem floor_nearestAway {a : ℚ} (ha : 0 ≤ a) {k : ℕ} (hk : t.places ≤ k) :
    ⌊a * 10 ^ t.places + t.lead⌋ ≤ ⌊nearestAway (a * 10 ^ k) / 10 ^ k * 10 ^ t.places + t.lead⌋ ∧
      (⌊nearestAway (a * 10 ^ k) / 10 ^ k * 10 ^ t.places + t.lead⌋ =
        ⌊a * 10 ^ t.places + t.lead⌋ ↔
      ¬(a < nearestAway (a * 10 ^ k) / 10 ^ k ∧ t.Jumps (nearestAway (a * 10 ^ k) / 10 ^ k))) := by
  obtain ⟨j, rfl⟩ := Nat.exists_eq_add_of_le hk
  have hpos : (0 : ℚ) < 10 ^ t.places := by positivity
  have hpow : a * 10 ^ (t.places + j) = a * 10 ^ t.places * 10 ^ j := by rw [pow_add, mul_assoc]
  -- On the grid of the type the first rounding keeps `j` places.
  have hgrid : (nearestAway (a * 10 ^ (t.places + j)) : ℚ) / 10 ^ (t.places + j) * 10 ^ t.places =
      (⌊a * 10 ^ t.places * 10 ^ j + 1 / 2⌋ : ℚ) / 10 ^ j := by
    rw [nearestAway_of_nonneg (by positivity), hpow, pow_add]
    field_simp
  rw [jumps_iff, abs_of_nonneg (nearestAway_div_nonneg ha _), ← mul_lt_mul_iff_left₀ hpos, hgrid]
  generalize a * 10 ^ t.places = x
  by_cases hstep : t.lead = 0 ∨ 0 < j
  · have hstep := t.exists_lead_mul hstep
    exact ⟨floor_le_floor_rounded hstep, floor_rounded_eq_iff hstep⟩
  · -- A numeric type whose own places are the ones that are kept: it is rounded to once.
    obtain ⟨hlead, hj⟩ := not_or.1 hstep
    obtain rfl : j = 0 := by omega
    have hfloor : ∀ m : ℤ, ⌊(m : ℚ) + 1 / 2⌋ = m := fun m => by
      rw [Int.floor_intCast_add]
      norm_num
    have hno : ∀ m z : ℤ, (m : ℚ) + 1 / 2 ≠ z := fun m z hz => by
      have hdouble : 2 * m + 1 = 2 * z := by
        have : (2 * m + 1 : ℚ) = 2 * z := by linarith
        exact_mod_cast this
      omega
    rw [pow_zero, mul_one, div_one, lead_of_ne_zero hlead, hfloor]
    exact ⟨le_rfl, iff_of_true rfl fun ⟨_, z, hz⟩ => hno _ z hz⟩

/-- A numeric type has no room for a number of 29 digits. -/
theorem not_includes_of_le {p : Precision} (hx : 10 ^ 28 ≤ x * 10 ^ p.scale) :
    ¬(numeric p).Includes (⌊x * 10 ^ p.scale + 1 / 2⌋ / 10 ^ p.scale : ℚ) := by
  have hpos : (0 : ℚ) < 10 ^ p.scale := by positivity
  have hpow : (10 : ℚ) ^ p.digits ≤ 10 ^ 28 := pow_le_pow_right₀ (by norm_num) p.digits_mem.2
  have hfloor : (10 : ℤ) ^ 28 ≤ ⌊x * 10 ^ p.scale + 1 / 2⌋ := Int.le_floor.2 (by
    push_cast
    linarith)
  have hlarge : (10 : ℚ) ^ 28 ≤ ⌊x * 10 ^ p.scale + 1 / 2⌋ := by exact_mod_cast hfloor
  rw [includes_numeric_iff, abs_of_nonneg (div_nonneg (by linarith) hpos.le),
    div_le_div_iff_of_pos_right hpos]
  linarith

variable {n : Numeral} {k : ℕ}

/-- If there is no room for as many places as a numeric type has, the number has too many digits for
the type, and still has after it is rounded. -/
theorem le_of_full {p : Precision} (hk : IsGreatest {k | n.HasRoom k} k) (hplaces : k < p.scale)
    (hscale : k < n.scale) :
    10 ^ 28 ≤ n.magnitude * 10 ^ p.scale ∧
      (10 ^ 28 : ℚ) ≤ nearestAway (n.magnitude * 10 ^ k) / 10 ^ k * 10 ^ p.scale := by
  have ha := n.magnitude_nonneg
  have hmax : p.scale ≤ Decimal.maxScale := p.scale_le.trans p.digits_mem.2
  have hfull : (Decimal.limit : ℤ) ≤ nearestAway (n.magnitude * 10 ^ (k + 1)) := by
    by_contra hlt
    have := hk.2 (show n.HasRoom (k + 1) from ⟨by omega, hscale, not_le.1 hlt⟩)
    omega
  have hlimit : (7 * 10 ^ 28 : ℚ) ≤ nearestAway (n.magnitude * 10 ^ (k + 1)) := by
    have hle : (7 * 10 ^ 28 : ℤ) ≤ Decimal.limit := by decide
    exact_mod_cast hle.trans hfull
  -- One place less leaves a tenth of that, and rounding takes at most one half of it away.
  have hlarge : (6 * 10 ^ 28 : ℚ) ≤ n.magnitude * 10 ^ k * 10 := by
    have hnext := abs_le.1 (abs_sub_nearestAway_le (n.magnitude * 10 ^ (k + 1)))
    rw [mul_assoc, ← pow_succ]
    linarith
  have hkept := abs_le.1 (abs_sub_nearestAway_le (n.magnitude * 10 ^ k))
  have hpos : (0 : ℚ) < 10 ^ k := by positivity
  have hmono : (10 : ℚ) ^ k * 10 ≤ 10 ^ p.scale := by
    rw [← pow_succ]
    exact pow_le_pow_right₀ (by norm_num) hplaces
  have hexact : n.magnitude * (10 ^ k * 10) ≤ n.magnitude * 10 ^ p.scale := by gcongr
  have hm := nearestAway_div_nonneg ha k
  have hrounded : nearestAway (n.magnitude * 10 ^ k) / 10 ^ k * (10 ^ k * 10) ≤
      nearestAway (n.magnitude * 10 ^ k) / 10 ^ k * (10 : ℚ) ^ p.scale := by gcongr
  rw [← mul_assoc, div_mul_cancel₀ _ hpos.ne'] at hrounded
  constructor <;> linarith

/-- What a type stores for the magnitude of a numeral, and for the same magnitude after it is
rounded to the places that there is room for: the second number is no smaller, and differs from the
first one only where the type goes over to its next number. A type that has more places than there
is room for has no room for either of them. -/
theorem nearest?_magnitude (ht : t.range?.isSome = true) (hk : IsGreatest {k | n.HasRoom k} k)
    {r : ℚ} (hr : r = nearestAway (n.magnitude * 10 ^ k) / 10 ^ k)
    (hx : t.nearest? n.magnitude = some x) (hy : t.nearest? r = some y) :
    (0 ≤ x ∧ x ≤ y ∧ (y = x ↔ ¬(n.magnitude < r ∧ t.Jumps r))) ∨
      ((¬t.Includes x ∧ ¬t.Includes (-x)) ∧ ¬t.Includes y ∧ ¬t.Includes (-y)) := by
  have ha := n.magnitude_nonneg
  have hpos : (0 : ℚ) < 10 ^ t.places := by positivity
  have hr0 : 0 ≤ r := hr ▸ nearestAway_div_nonneg ha k
  rw [nearest?_of_nonneg ht ha, Option.some.injEq] at hx
  rw [nearest?_of_nonneg ht hr0, Option.some.injEq] at hy
  have hlead : 0 ≤ t.lead := by cases t <;> norm_num [lead]
  have hx0 : 0 ≤ x := by
    have hfloor : 0 ≤ ⌊n.magnitude * 10 ^ t.places + t.lead⌋ := Int.floor_nonneg.2 (by positivity)
    rw [← hx]
    positivity
  by_cases hplaces : t.places ≤ k
  · left
    obtain ⟨hle, heq⟩ := floor_nearestAway ha hplaces
    rw [← hr] at hle heq
    refine ⟨hx0, ?_, ?_⟩
    · rw [← hx, ← hy]
      gcongr
    · rw [← heq, ← hx, ← hy, div_left_inj' hpos.ne', Int.cast_inj]
  · by_cases hscale : k = n.scale
    · -- All digits are kept, and nothing is rounded.
      left
      have hexact : r = n.magnitude := by
        rw [hr, hscale, n.nearestAway_magnitude le_rfl, Nat.sub_self, Decimal.quotient_zero,
          Numeral.magnitude]
        push_cast
        rfl
      rw [hexact, hx] at hy
      rw [hexact, ← hy]
      exact ⟨hx0, le_rfl, iff_of_true rfl fun h => lt_irrefl _ h.1⟩
    · right
      have hlt : k < n.scale := lt_of_le_of_ne hk.1.2.1 hscale
      cases t with
      | numeric p =>
        obtain ⟨hexact, hrounded⟩ := le_of_full hk (not_le.1 hplaces) hlt
        rw [← hr] at hrounded
        have hxn := not_includes_of_le hexact
        have hyn := not_includes_of_le hrounded
        have hneg : ∀ z, (numeric p).Includes (-z) ↔ (numeric p).Includes z := fun z => by
          rw [includes_numeric_iff, includes_numeric_iff, abs_neg]
        rw [hneg, hneg, ← hx, ← hy]
        exact ⟨⟨hxn, hxn⟩, hyn, hyn⟩
      | _ => exact absurd (Nat.zero_le k) hplaces

/-- What a type stores for a numeral is what it stores for the number after it is rounded to the
places that there is room for, unless it goes over to its next number there. -/
theorem nearest?_rounded (ht : t.range?.isSome = true) (hk : IsGreatest {k | n.HasRoom k} k)
    (hx : t.nearest? n.value = some x) (hy : t.nearest? (n.rounded k) = some y) :
    (t.Includes x → (y = x ↔ ¬(|n.value| < |n.rounded k| ∧ t.Jumps (n.rounded k)))) ∧
      (t.Includes y → t.Includes x) := by
  obtain ⟨r, hr⟩ : ∃ r : ℚ, r = nearestAway (n.magnitude * 10 ^ k) / 10 ^ k := ⟨_, rfl⟩
  have hr0 : 0 ≤ r := hr ▸ nearestAway_div_nonneg n.magnitude_nonneg k
  have hrounded := n.rounded_eq k
  rw [← hr] at hrounded
  have habs : |n.rounded k| = r := by
    rw [hrounded]
    split
    · rw [abs_neg, abs_of_nonneg hr0]
    · exact abs_of_nonneg hr0
  have hjumps : t.Jumps (n.rounded k) ↔ t.Jumps r := by
    rw [jumps_iff, jumps_iff, habs, abs_of_nonneg hr0]
  obtain ⟨x₀, hx₀⟩ := exists_nearest? ht n.magnitude
  obtain ⟨y₀, hy₀⟩ := exists_nearest? ht r
  have hmagnitude := nearest?_magnitude ht hk hr hx₀ hy₀
  rw [n.abs_value, habs, hjumps]
  -- The sign of the numeral is that of both results.
  cases hnegative : n.negative with
  | true =>
    rw [Numeral.value, hnegative, if_pos rfl, nearest?_neg, hx₀] at hx
    rw [hrounded, hnegative, if_pos rfl, nearest?_neg, hy₀] at hy
    obtain rfl : -x₀ = x := Option.some.inj hx
    obtain rfl : -y₀ = y := Option.some.inj hy
    rcases hmagnitude with ⟨hnonneg, hle, heq⟩ | ⟨⟨-, hxn⟩, -, hyn⟩
    · exact ⟨fun _ => neg_inj.trans heq,
        fun hy => includes_of_between hy (.inr ⟨by linarith, by linarith⟩)⟩
    · exact ⟨fun h => absurd h hxn, fun h => absurd h hyn⟩
  | false =>
    rw [Numeral.value, hnegative, if_neg Bool.false_ne_true, hx₀] at hx
    rw [hrounded, hnegative, if_neg Bool.false_ne_true, hy₀] at hy
    obtain rfl : x₀ = x := Option.some.inj hx
    obtain rfl : y₀ = y := Option.some.inj hy
    rcases hmagnitude with ⟨hnonneg, hle, heq⟩ | ⟨⟨hxn, -⟩, hyn, -⟩
    · exact ⟨fun _ => heq, fun hy => includes_of_between hy (.inl ⟨hnonneg, hle⟩)⟩
    · exact ⟨fun h => absurd h hxn, fun h => absurd h hyn⟩

/-! ### Validation of texts -/

variable {s column : String} {notNull : Bool}

/-- Whether a text is taken as the number that it says: a type stores the nearest number of its grid
if that is within its range, and reports a number out of range otherwise. -/
def TakesExactly (t : SqlType) (column : String) (notNull : Bool) (n : Numeral) (s : String) :
    Prop :=
  ∃ x, t.nearest? n.value = some x ∧
    (t.Includes x → ∃ w, t.validate column notNull (.text s) = .ok w ∧ w.number? = some x) ∧
    (¬t.Includes x →
      ∃ e, t.validate column notNull (.text s) = .error (.outOfRange column t e))

/-- A text that is no number is invalid for a type of numbers. -/
theorem validate_eq_invalidType (ht : t.range?.isSome = true) (hs : Decimal.ofText? s = none) :
    t.validate column notNull (.text s) = .error (.invalidType column t (.text s)) := by
  have hgiven : Value.IsGiven (.text s) := ⟨fun h => (nomatch h), fun _ h => (nomatch h)⟩
  have hdecimal : Value.decimal? (.text s) = none := hs
  rw [validate_of_ne_null hgiven.1, coerce_eq_number ht hgiven, number, hdecimal]
  rfl

/-- A type of numbers takes the text of a number after it is rounded to as many places as a decimal
has room for.

* If there is room for its whole part, the rounded number is stored on the grid of the type if that
  is within its range, and reported as out of range otherwise. If there is none, the text is
  invalid.
* This is what the type makes of the number itself exactly if there is room for the whole part and,
  where that number is within the range, it is not rounded up to one at which the type goes over to
  its next number. -/
theorem takesExactly_iff (ht : t.range?.isSome = true) (hs : n.IsText s) :
    (n.HasRoom 0 → ∃ k y, IsGreatest {k | n.HasRoom k} k ∧ t.nearest? (n.rounded k) = some y ∧
      (t.Includes y → ∃ w, t.validate column notNull (.text s) = .ok w ∧ w.number? = some y) ∧
      (¬t.Includes y → ∃ e : Decimal, e.value = y ∧
        t.validate column notNull (.text s) = .error (.outOfRange column t e))) ∧
    (¬n.HasRoom 0 →
      t.validate column notNull (.text s) = .error (.invalidType column t (.text s))) ∧
    (t.TakesExactly column notNull n s ↔ n.HasRoom 0 ∧
      ∀ k x, IsGreatest {k | n.HasRoom k} k → t.nearest? n.value = some x → t.Includes x →
        ¬(|n.value| < |n.rounded k| ∧ t.Jumps (n.rounded k))) := by
  cases hd : Decimal.ofText? s with
  | none =>
    have hroom := (Numeral.ofText?_eq_none_iff hs).1 hd
    have hinvalid := @validate_eq_invalidType t s column notNull ht hd
    refine ⟨fun h => absurd h hroom, fun _ => hinvalid, ?_, fun h => absurd h.1 hroom⟩
    rintro ⟨x, -, htaken, hrefused⟩
    by_cases hx : t.Includes x
    · obtain ⟨w, hw, -⟩ := htaken hx
      exact (nomatch hinvalid.symm.trans hw)
    · obtain ⟨e, he⟩ := hrefused hx
      exact (nomatch hinvalid.symm.trans he)
  | some d =>
    have hk := Numeral.scale_of_ofText? hs hd
    have hroom := Numeral.hasRoom_zero hk.1
    have hvalue := Numeral.value_of_ofText? hs hd
    obtain ⟨y, hy⟩ := exists_nearest? ht (n.rounded d.scale)
    obtain ⟨htaken, hrefused⟩ :=
      @validate_number t y (.text s) d column notNull ht hd (hvalue ▸ hy)
    refine ⟨fun _ => ⟨_, y, hk, hy, htaken, hrefused⟩, fun h => absurd hroom h, ?_, ?_⟩
    · rintro ⟨x, hx, hexact, -⟩
      refine ⟨hroom, fun k x' hk' hx' hincludes => ?_⟩
      obtain rfl := hk.unique hk'
      obtain rfl : x = x' := Option.some.inj (hx.symm.trans hx')
      obtain ⟨w, hw, hwx⟩ := hexact hincludes
      refine ((nearest?_rounded ht hk hx hy).1 hincludes).1 ?_
      by_cases hyin : t.Includes y
      · obtain ⟨w', hw', hwy⟩ := htaken hyin
        cases hw.symm.trans hw'
        exact Option.some.inj (hwy.symm.trans hwx)
      · obtain ⟨e, -, he⟩ := hrefused hyin
        exact (nomatch hw.symm.trans he)
    · rintro ⟨-, hno⟩
      obtain ⟨x, hx⟩ := exists_nearest? ht n.value
      obtain ⟨heq, hmono⟩ := nearest?_rounded ht hk hx hy
      refine ⟨x, hx, fun hincludes => ?_, fun hincludes => ?_⟩
      · obtain rfl := (heq hincludes).2 (hno _ _ hk hx hincludes)
        exact htaken hincludes
      · obtain ⟨e, -, he⟩ := hrefused (mt hmono hincludes)
        exact ⟨e, he⟩

end SqlType

/-! ### Long texts -/

namespace Long

/-- The number `0.99999999999999999999999999999`. -/
def nines : Numeral :=
  ⟨none, ['0'], some (List.replicate 29 '9'), by decide, by decide, by decide⟩

/-- The number `79228162514264337593543950336`, one more than a decimal has room for. -/
def large : Numeral :=
  ⟨none, "79228162514264337593543950336".toList, none, by decide, by decide, by decide⟩

theorem isText_nines : nines.IsText "0.99999999999999999999999999999" :=
  ⟨[], [], fun _ h => (nomatch h), fun _ h => (nomatch h), by decide⟩

theorem isText_large : large.IsText "79228162514264337593543950336" :=
  ⟨[], [], fun _ h => (nomatch h), fun _ h => (nomatch h), by decide⟩

/-- One of the nines is rounded away. -/
theorem isGreatest_nines : IsGreatest {k | nines.HasRoom k} 28 :=
  ⟨Numeral.hasRoom_iff.2 ⟨by decide, by decide, by decide⟩, fun _ hk => hk.1⟩

theorem value_nines : nines.value = 0.99999999999999999999999999999 := by
  have hmantissa : nines.mantissa = 99999999999999999999999999999 := by decide
  have hscale : nines.scale = 29 := rfl
  have hsign : nines.negative = false := rfl
  norm_num [Numeral.value, Numeral.magnitude, hmantissa, hscale, hsign]

theorem rounded_nines : nines.rounded 28 = 1 := by
  norm_num [Numeral.rounded, value_nines, nearestAway]

theorem includes_integer {x : ℚ} (h : 0 ≤ x ∧ x ≤ 1) : SqlType.integer.Includes x := by
  rintro _ _ ⟨⟩
  constructor <;> linarith

/-- A number that is less than one is stored as one, and a number out of range is invalid. -/
theorem not_takesExactly_long :
    (∃ w, SqlType.integer.validate "c" true (.text "0.99999999999999999999999999999") = .ok w ∧
      w.number? = some 1) ∧
    SqlType.integer.nearest? nines.value = some 0 ∧
    ¬SqlType.integer.TakesExactly "c" true nines "0.99999999999999999999999999999" ∧
    SqlType.integer.validate "c" true (.text "79228162514264337593543950336") =
      .error (.invalidType "c" .integer (.text "79228162514264337593543950336")) := by
  obtain ⟨htaken, -, hexact⟩ :=
    @SqlType.takesExactly_iff .integer nines _ "c" true rfl isText_nines
  obtain ⟨-, hinvalid, -⟩ := @SqlType.takesExactly_iff .integer large _ "c" true rfl isText_large
  have hroom : nines.HasRoom 0 := Numeral.hasRoom_zero isGreatest_nines.1
  have hzero : SqlType.integer.nearest? nines.value = some 0 := by
    norm_num [SqlType.nearest?, value_nines, wholePart]
  refine ⟨?_, hzero, fun h => ?_, hinvalid fun h => ?_⟩
  · obtain ⟨k, y, hk, hy, hstored, -⟩ := htaken hroom
    obtain rfl := isGreatest_nines.unique hk
    obtain rfl : 1 = y := by
      rw [rounded_nines] at hy
      exact Option.some.inj (hy ▸ by norm_num [SqlType.nearest?, wholePart])
    exact hstored (includes_integer (by norm_num))
  · have hlt : |nines.value| < |nines.rounded 28| := by
      rw [rounded_nines, value_nines]
      norm_num
    have hjumps : SqlType.integer.Jumps (nines.rounded 28) :=
      ⟨1, by rw [rounded_nines, Int.cast_one]⟩
    exact (hexact.1 h).2 28 0 isGreatest_nines hzero (includes_integer (by norm_num))
      ⟨hlt, hjumps⟩
  · exact absurd (Numeral.hasRoom_iff.1 h).2.2 (by decide)

end Long

end TypedTable
