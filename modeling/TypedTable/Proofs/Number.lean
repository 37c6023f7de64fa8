import Mathlib.Algebra.Order.Field.Basic
import Mathlib.Data.Rat.Floor
import Mathlib.Tactic.FieldSimp
import Mathlib.Tactic.Linarith
import Mathlib.Tactic.Ring
import TypedTable.Proofs.Coercion
/-!
# The numbers that decimals stand for

`Decimal.value` is the rational number of a decimal. Decimals are compared by their numbers
(`le_iff_value`, `same_iff_value`), `Decimal.truncate` cuts the fraction of the number off
(`value_truncate`) and `Decimal.round` rounds it to a number of places, a half going away from zero
(`value_round`).

`SqlType.admits_iff` says with them which numbers a type has room for, and `value_greatest` what the
greatest number of a numeric type is.
-/

namespace TypedTable

/-! ### Rounding of rational numbers -/

/-- The integer that is left of a number without its fraction. -/
def wholePart (x : ℚ) : ℤ := if x < 0 then ⌈x⌉ else ⌊x⌋

/-- The nearest integer to a number, a half going away from zero. -/
def nearestAway (x : ℚ) : ℤ := if x < 0 then ⌈x - 1 / 2⌉ else ⌊x + 1 / 2⌋

theorem wholePart_neg (x : ℚ) : wholePart (-x) = -wholePart x := by
  unfold wholePart
  rcases lt_trichotomy x 0 with h | rfl | h
  · rw [if_neg (by linarith), if_pos h, Int.floor_neg]
  · simp
  · rw [if_pos (by linarith), if_neg (by linarith), Int.ceil_neg]

theorem nearestAway_neg (x : ℚ) : nearestAway (-x) = -nearestAway x := by
  unfold nearestAway
  rcases lt_trichotomy x 0 with h | rfl | h
  · rw [if_neg (by linarith), if_pos h, ← Int.floor_neg]
    congr 1
    ring
  · norm_num
  · rw [if_pos (by linarith), if_neg (by linarith), ← Int.ceil_neg]
    congr 1
    ring

theorem wholePart_div (m u : ℕ) : wholePart ((m : ℚ) / u) = (m / u : ℕ) := by
  have h : ¬((m : ℚ) / u < 0) := not_lt.2 (by positivity)
  have hfloor := Rat.floor_intCast_div_natCast (m : ℤ) u
  rw [Int.cast_natCast] at hfloor
  rw [wholePart, if_neg h, hfloor, Int.natCast_div]

theorem nearestAway_natCast (n : ℕ) : nearestAway n = n := by
  have h : ¬((n : ℚ) < 0) := not_lt.2 (by positivity)
  rw [nearestAway, if_neg h, Int.floor_natCast_add]
  norm_num

/-- A quotient is rounded by adding half of the divisor to the dividend. -/
theorem nearestAway_div {m u : ℕ} (hu : 0 < u) :
    nearestAway ((m : ℚ) / u) = ((2 * m + u) / (2 * u) : ℕ) := by
  have h : ¬((m : ℚ) / u < 0) := not_lt.2 (by positivity)
  have hne : (u : ℚ) ≠ 0 := by positivity
  have hhalf : (m : ℚ) / u + 1 / 2 = ((2 * m + u : ℕ) : ℚ) / (2 * u : ℕ) := by
    push_cast
    field_simp
  have hfloor := Rat.floor_intCast_div_natCast ((2 * m + u : ℕ) : ℤ) (2 * u)
  rw [Int.cast_natCast] at hfloor
  rw [nearestAway, if_neg h, hhalf, hfloor, Int.natCast_div]

namespace Decimal

/-! ### The number of a decimal -/

/-- The number that a decimal stands for. -/
def value (d : Decimal) : ℚ := d.signed / 10 ^ d.scale

/-- The magnitude of the number. -/
def magnitude (d : Decimal) : ℚ := (d.mantissa : ℚ) / (10 ^ d.scale : ℕ)

theorem value_of_negative {d : Decimal} (h : d.negative = true) : d.value = -d.magnitude := by
  simp [value, magnitude, signed, h, neg_div]

theorem value_of_not_negative {d : Decimal} (h : d.negative = false) : d.value = d.magnitude := by
  simp [value, magnitude, signed, h]

/-- A decimal whose sign is known unless it is zero. -/
theorem value_eq_of_sign {d : Decimal} {negative : Bool}
    (h : d.mantissa ≠ 0 → d.negative = negative) :
    d.value = if negative then -d.magnitude else d.magnitude := by
  by_cases hzero : d.mantissa = 0
  · simp [value, magnitude, signed, hzero]
  · rw [← h hzero]
    cases hnegative : d.negative with
    | true => rw [value_of_negative hnegative, if_pos rfl]
    | false => rw [value_of_not_negative hnegative, if_neg Bool.false_ne_true]

theorem le_iff_value {a b : Decimal} : a.le b = true ↔ a.value ≤ b.value := by
  have ha : (0 : ℚ) < 10 ^ a.scale := by positivity
  have hb : (0 : ℚ) < 10 ^ b.scale := by positivity
  rw [value, value, div_le_div_iff₀ ha hb, le, decide_eq_true_eq]
  exact_mod_cast Iff.rfl

theorem same_iff_value {a b : Decimal} : a.same b = true ↔ a.value = b.value := by
  have ha : (10 : ℚ) ^ a.scale ≠ 0 := by positivity
  have hb : (10 : ℚ) ^ b.scale ≠ 0 := by positivity
  rw [value, value, div_eq_div_iff ha hb, same, beq_iff_eq]
  exact_mod_cast Iff.rfl

/-! ### Cutting and rounding -/

theorem magnitude_truncate (d : Decimal) : d.truncate.magnitude = wholePart d.magnitude := by
  have hmantissa : d.truncate.mantissa = d.mantissa / 10 ^ d.scale := rfl
  rw [magnitude, magnitude, wholePart_div, hmantissa, Int.cast_natCast]
  simp only [truncate_scale, pow_zero, Nat.cast_one, div_one]

/-- What is left of a decimal without its fraction is the whole part of its number. -/
theorem value_truncate (d : Decimal) : d.truncate.value = wholePart d.value := by
  cases h : d.negative with
  | true =>
    rw [value_of_negative h, value_of_negative (show d.truncate.negative = true from h),
      wholePart_neg, magnitude_truncate, Int.cast_neg]
  | false =>
    rw [value_of_not_negative h, value_of_not_negative (show d.truncate.negative = false from h),
      magnitude_truncate]

/-- The rounded quotient is that of twice the dividend and the divisor by twice the divisor. -/
theorem quotient_eq (m k : ℕ) : quotient m k = (2 * m + 10 ^ k) / (2 * 10 ^ k) := by
  have hpos : 0 < 10 ^ k := Nat.pow_pos (by decide)
  show (if 10 ^ k ≤ 2 * (m % 10 ^ k) then m / 10 ^ k + 1 else m / 10 ^ k) = _
  generalize 10 ^ k = u at hpos
  have hmod := Nat.mod_lt m hpos
  -- The whole part of the quotient goes out, and what is left is decided by the remainder.
  have hsplit : 2 * m + u = 2 * (m % u) + u + 2 * u * (m / u) := by
    rw [Nat.mul_assoc]
    have hdiv := Nat.div_add_mod m u
    omega
  rw [hsplit, Nat.add_mul_div_left _ _ (by omega)]
  split
  · have hone : (2 * (m % u) + u) / (2 * u) = 1 := Nat.div_eq_of_lt_le (by omega) (by omega)
    rw [hone, Nat.add_comm]
  · have hzero : (2 * (m % u) + u) / (2 * u) = 0 := Nat.div_eq_of_lt (by omega)
    rw [hzero, Nat.zero_add]

/-- A number times a power of ten that reaches its last digit is an integer. -/
theorem magnitude_mul_of_scale_le {d : Decimal} {places : ℕ} (h : d.scale ≤ places) :
    d.magnitude * 10 ^ places = (d.mantissa * 10 ^ (places - d.scale) : ℕ) := by
  have hpow : (10 : ℚ) ^ places = 10 ^ d.scale * 10 ^ (places - d.scale) := by
    rw [← pow_add, Nat.add_sub_cancel' h]
  rw [magnitude, hpow]
  push_cast
  field_simp

/-- A number is rounded to fewer places by rounding the quotient by a power of ten. -/
theorem nearestAway_div_pow {m f places : ℕ} (h : places ≤ f) :
    nearestAway ((m : ℚ) / (10 ^ f : ℕ) * 10 ^ places) = quotient m (f - places) := by
  have hpow : (10 : ℚ) ^ f = 10 ^ (f - places) * 10 ^ places := by
    rw [← pow_add, Nat.sub_add_cancel h]
  have hdiv : (m : ℚ) / (10 ^ f : ℕ) * 10 ^ places = (m : ℚ) / (10 ^ (f - places) : ℕ) := by
    push_cast
    rw [hpow]
    field_simp
  rw [hdiv, nearestAway_div (Nat.pow_pos (by decide)), ← quotient_eq]

theorem negative_round {d : Decimal} {places : ℕ} (h : (d.round places).mantissa ≠ 0) :
    (d.round places).negative = d.negative := by
  unfold round at h ⊢
  split
  · rfl
  · split
    · rfl
    · next hscale hzero =>
      rw [dif_neg hscale, if_neg hzero] at h
      have hmantissa : (quotient d.mantissa (d.scale - places) != 0) = true := bne_iff_ne.2 h
      show (d.negative && _) = d.negative
      rw [hmantissa, Bool.and_true]

theorem magnitude_round (d : Decimal) (places : ℕ) :
    (d.round places).magnitude = nearestAway (d.magnitude * 10 ^ places) / 10 ^ places := by
  have hpow : (10 : ℚ) ^ places ≠ 0 := by positivity
  rw [eq_div_iff hpow]
  unfold round
  split
  · next hscale => rw [magnitude_mul_of_scale_le hscale, nearestAway_natCast, Int.cast_natCast]
  · next hscale =>
    have hround : nearestAway (d.magnitude * 10 ^ places) =
        quotient d.mantissa (d.scale - places) := nearestAway_div_pow (by omega)
    rw [hround]
    split
    · next hzero =>
      have hquotient : quotient 0 (d.scale - places) = 0 := by
        have hpos : 0 < 10 ^ (d.scale - places) := Nat.pow_pos (by decide)
        rw [quotient_eq]
        exact Nat.div_eq_of_lt (by omega)
      rw [hzero, hquotient]
      simp [magnitude]
    · rw [magnitude]
      simp [ofParts]

/-- Rounding a decimal rounds its number to a multiple of a power of ten. -/
theorem value_round (d : Decimal) (places : ℕ) :
    (d.round places).value = nearestAway (d.value * 10 ^ places) / 10 ^ places := by
  rw [value_eq_of_sign negative_round, magnitude_round]
  cases h : d.negative with
  | true =>
    rw [if_pos rfl, value_of_negative h, neg_mul, nearestAway_neg, Int.cast_neg, neg_div]
  | false => rw [if_neg Bool.false_ne_true, value_of_not_negative h]

end Decimal

/-! ### The bounds of types -/

theorem Decimal.value_ofInt64 (n : Int64) : (ofInt64 n).value = n.toInt := by
  rw [value, signed_ofInt64]
  simp [ofInt64, ofParts]

/-- The greatest number of a numeric type is one unit of its last place below a power of ten. -/
theorem Precision.value_greatest (p : Precision) :
    p.greatest.value = 10 ^ (p.digits - p.scale) - 1 / 10 ^ p.scale := by
  have hpos : 0 < 10 ^ p.digits := Nat.pow_pos (by decide)
  have hpow : (10 : ℚ) ^ p.digits = 10 ^ (p.digits - p.scale) * 10 ^ p.scale := by
    rw [← pow_add, Nat.sub_add_cancel p.scale_le]
  have hmagnitude : p.greatest.magnitude = ((10 ^ p.digits - 1 : ℕ) : ℚ) / (10 ^ p.scale : ℕ) := rfl
  rw [Decimal.value_of_not_negative (show p.greatest.negative = false from rfl), hmagnitude,
    Nat.cast_sub hpos]
  push_cast
  rw [hpow]
  field_simp

theorem Decimal.value_negate (d : Decimal) : d.negate.value = -d.value := by
  cases h : d.negative with
  | true =>
    have hnegate : d.negate.negative = false := by simp [negate, h]
    rw [value_of_negative h, value_of_not_negative hnegate, neg_neg]
    rfl
  | false =>
    have hnegate : d.negate.negative = true := by simp [negate, h]
    rw [value_of_not_negative h, value_of_negative hnegate]
    rfl

/-- The least and the greatest number of a type of numbers, as rational numbers. -/
def SqlType.range? : SqlType → Option (ℚ × ℚ)
  | .smallInt => some (-32768, 32767)
  | .integer => some (-2147483648, 2147483647)
  | .smallSerial => some (0, 32767)
  | .serial => some (0, 2147483647)
  | .numeric p =>
    some (-(10 ^ (p.digits - p.scale) - 1 / 10 ^ p.scale),
      10 ^ (p.digits - p.scale) - 1 / 10 ^ p.scale)
  | _ => none

/-- The bounds of a type are the ends of its range. -/
theorem SqlType.range?_eq (t : SqlType) :
    t.range? = t.bounds?.map fun bounds => (bounds.1.value, bounds.2.value) := by
  have hzero : Decimal.zero = .ofInt64 0 := rfl
  have hends : (0 : Int64).toInt = 0 ∧ (-32768 : Int64).toInt = -32768 ∧
      (32767 : Int64).toInt = 32767 ∧ (-2147483648 : Int64).toInt = -2147483648 ∧
      (2147483647 : Int64).toInt = 2147483647 := by decide
  cases t with
  | numeric p =>
    simp only [range?, bounds?, Option.map_some, Decimal.value_negate, Precision.value_greatest]
  | smallInt | integer | smallSerial | serial =>
    simp only [range?, bounds?, Option.map_some, hzero, Decimal.value_ofInt64, hends]
    norm_num
  | _ => rfl

/-- Whether a number lies in the range of a type, if it has one. -/
def SqlType.Includes (t : SqlType) (q : ℚ) : Prop :=
  ∀ low high, t.range? = some (low, high) → low ≤ q ∧ q ≤ high

/-- A type has room for the numbers in its range. -/
theorem SqlType.admits_iff {t : SqlType} {d : Decimal} :
    t.admits d = true ↔ t.Includes d.value := by
  unfold admits Includes
  rw [range?_eq]
  split
  · next low high hbounds =>
    rw [Bool.and_eq_true, Decimal.le_iff_value, Decimal.le_iff_value, hbounds]
    constructor
    · rintro hwithin _ _ ⟨⟩
      exact hwithin
    · exact fun h => h _ _ rfl
  · next hbounds =>
    rw [hbounds]
    exact iff_of_true rfl fun low high h => (nomatch h)

end TypedTable
