import TypedTable.Proofs.Conversion
/-!
# Rounding to the grid of a type

A type of numbers stores the multiples of a power of ten: `SqlType.places` is the number of digits
behind the point. What it stores for another number lies less than one step of that grid away
(`SqlType.abs_sub_lt_of_nearest?`); for a numeric type it is the nearest multiple
(`IsNearestMultiple`), and of two that are as near the one further from zero.

`SqlType.validate_of_decimal?` says with this what a type of numbers makes of a value that stands
for a number.
-/

namespace TypedTable

/-! ### The nearest integer -/

theorem nearestAway_of_nonneg {x : ℚ} (h : 0 ≤ x) : nearestAway x = ⌊x + 1 / 2⌋ :=
  if_neg (not_lt.2 h)

theorem nearestAway_nonneg {x : ℚ} (h : 0 ≤ x) : 0 ≤ nearestAway x := by
  rw [nearestAway_of_nonneg h]
  exact Int.floor_nonneg.2 (by linarith)

theorem nearestAway_div_nonneg {x : ℚ} (h : 0 ≤ x) (places : ℕ) :
    (0 : ℚ) ≤ nearestAway (x * 10 ^ places) / 10 ^ places :=
  div_nonneg (by exact_mod_cast nearestAway_nonneg (by positivity)) (by positivity)

theorem wholePart_of_nonneg {x : ℚ} (h : 0 ≤ x) : wholePart x = ⌊x⌋ := if_neg (not_lt.2 h)

theorem abs_sub_nearestAway_le (x : ℚ) : |x - nearestAway x| ≤ 1 / 2 := by
  unfold nearestAway
  split
  · have hlow := Int.ceil_lt_add_one (x - 1 / 2)
    have hhigh := Int.le_ceil (x - 1 / 2)
    rw [abs_le]
    constructor <;> linarith
  · have hlow := Int.floor_le (x + 1 / 2)
    have hhigh := Int.lt_floor_add_one (x + 1 / 2)
    rw [abs_le]
    constructor <;> linarith

theorem abs_sub_wholePart_lt (x : ℚ) : |x - wholePart x| < 1 := by
  unfold wholePart
  split
  · have hlow := Int.ceil_lt_add_one x
    have hhigh := Int.le_ceil x
    rw [abs_lt]
    constructor <;> linarith
  · have hlow := Int.floor_le x
    have hhigh := Int.lt_floor_add_one x
    rw [abs_lt]
    constructor <;> linarith

theorem nearestAway_mono {x y : ℚ} (h : x ≤ y) : nearestAway x ≤ nearestAway y := by
  unfold nearestAway
  split
  · next hx =>
    split
    · exact Int.ceil_mono (by linarith)
    · next hy =>
      have hlow : ⌈x - 1 / 2⌉ ≤ 0 := Int.ceil_le.2 (by norm_num; linarith)
      have hhigh : 0 ≤ ⌊y + 1 / 2⌋ := Int.floor_nonneg.2 (by linarith)
      exact hlow.trans hhigh
  · next hx =>
    rw [if_neg (by linarith)]
    exact Int.floor_mono (by linarith)

/-- Half a step is rounded away from zero. -/
theorem abs_le_of_tie {x : ℚ} {z : ℤ} (h : |x - z| ≤ 1 / 2) :
    |(z : ℚ)| ≤ |(nearestAway x : ℚ)| := by
  have hnonneg : ∀ {x : ℚ} {z : ℤ}, 0 ≤ x → |x - z| ≤ 1 / 2 →
      |(z : ℚ)| ≤ |(nearestAway x : ℚ)| := by
    intro x z hx h
    rw [nearestAway_of_nonneg hx]
    rw [abs_le] at h
    have hz : z ≤ ⌊x + 1 / 2⌋ := Int.le_floor.2 (by linarith)
    have hpos : 0 ≤ ⌊x + 1 / 2⌋ := nearestAway_of_nonneg hx ▸ nearestAway_nonneg hx
    have hneg : (-1 : ℤ) < z := by
      have : (-1 : ℚ) < z := by linarith
      exact_mod_cast this
    rw [abs_of_nonneg (by exact_mod_cast (by omega : (0 : ℤ) ≤ z)),
      abs_of_nonneg (by exact_mod_cast hpos)]
    exact_mod_cast hz
  rcases le_total 0 x with hx | hx
  · exact hnonneg hx h
  · have hreflected := @hnonneg (-x) (-z) (by linarith) (by
      rw [Int.cast_neg, ← neg_sub', abs_neg]
      simpa using h)
    rwa [nearestAway_neg, Int.cast_neg, Int.cast_neg, abs_neg, abs_neg] at hreflected

/-! ### The nearest multiple of a power of ten -/

/-- Whether a number is the multiple of `1 / 10 ^ places` nearest to `x`, and the one further from
zero if two of them are as near. -/
structure IsNearestMultiple (places : ℕ) (x r : ℚ) : Prop where
  multiple : ∃ z : ℤ, r = z / 10 ^ places
  nearest : ∀ z : ℤ, |x - r| ≤ |x - z / 10 ^ places|
  away : ∀ z : ℤ, |x - z / 10 ^ places| = |x - r| → |(z / 10 ^ places : ℚ)| ≤ |r|

/-- Distances on the grid are those of the integers, divided by the power of ten. -/
theorem abs_sub_div_pow (x z : ℚ) (places : ℕ) :
    |x - z / 10 ^ places| = |x * 10 ^ places - z| / 10 ^ places := by
  have hpos : (0 : ℚ) < 10 ^ places := by positivity
  rw [eq_div_iff hpos.ne', ← abs_of_pos hpos, ← abs_mul, abs_of_pos hpos, sub_mul,
    div_mul_cancel₀ _ hpos.ne']

theorem isNearestMultiple_nearestAway (places : ℕ) (x : ℚ) :
    IsNearestMultiple places x (nearestAway (x * 10 ^ places) / 10 ^ places) where
  multiple := ⟨_, rfl⟩
  nearest z := by
    have hhalf := abs_sub_nearestAway_le (x * 10 ^ places)
    rw [abs_sub_div_pow, abs_sub_div_pow]
    generalize x * 10 ^ places = y at *
    gcongr ?_ / _
    by_cases hz : z = nearestAway y
    · rw [hz]
    · -- Another integer is at least one away from the nearest one.
      have hone : (1 : ℚ) ≤ |((z - nearestAway y : ℤ) : ℚ)| := by
        exact_mod_cast Int.one_le_abs (sub_ne_zero.2 hz)
      have hsum := abs_add_le (y - nearestAway y) (-(y - z))
      rw [abs_neg] at hsum
      have hdiff : y - nearestAway y + -(y - z) = ((z - nearestAway y : ℤ) : ℚ) := by
        push_cast
        ring
      rw [hdiff] at hsum
      linarith
  away z hz := by
    have hpos : (0 : ℚ) < 10 ^ places := by positivity
    have hhalf := abs_sub_nearestAway_le (x * 10 ^ places)
    rw [abs_sub_div_pow, abs_sub_div_pow, div_left_inj' hpos.ne'] at hz
    rw [abs_div, abs_div]
    exact div_le_div_of_nonneg_right (abs_le_of_tie (hz.trans_le hhalf)) (abs_nonneg _)

/-- There is one such multiple. -/
theorem IsNearestMultiple.unique {places : ℕ} {x r r' : ℚ} (h : IsNearestMultiple places x r)
    (h' : IsNearestMultiple places x r') : r = r' := by
  obtain ⟨z, rfl⟩ := h.multiple
  obtain ⟨z', rfl⟩ := h'.multiple
  have hnear := le_antisymm (h.nearest z') (h'.nearest z)
  have haway := le_antisymm (h'.away z hnear) (h.away z' hnear.symm)
  rcases abs_eq_abs.1 haway with heq | hneg
  · exact heq
  · -- Of two opposite multiples none is nearer than zero, which is a multiple too.
    have hzero := h'.nearest 0
    rw [Int.cast_zero, zero_div, sub_zero] at hzero
    rw [hneg] at hnear ⊢
    generalize (z' : ℚ) / 10 ^ places = a at *
    have hsq : (x - -a) ^ 2 = (x - a) ^ 2 := sq_eq_sq_iff_abs_eq_abs _ _ |>.2 hnear
    have hprod : x * a = 0 := by linarith
    rcases mul_eq_zero.1 hprod with rfl | rfl
    · rw [zero_sub, abs_neg, abs_zero] at hzero
      rw [abs_nonpos_iff.1 hzero, neg_zero]
    · exact neg_zero

/-! ### What a type of numbers stores -/

/-- Whether a value is a number, in one of the forms in which it is there exactly: an integer of any
width or a decimal. -/
inductive Value.Denotes : Value → ℚ → Prop
  | smallInt (n : Int16) : Denotes (.smallInt n) n.toInt
  | integer (n : Int32) : Denotes (.integer n) n.toInt
  | bigInt (n : Int64) : Denotes (.bigInt n) n.toInt
  | numeric (d : Decimal) : Denotes (.numeric d) d.value

theorem Value.Denotes.exists_decimal? {v : Value} {x : ℚ} (h : v.Denotes x) :
    ∃ d, v.decimal? = some d ∧ d.value = x := by
  cases h with
  | smallInt n => exact ⟨_, rfl, by rw [Decimal.value_ofInt64, Int16.toInt_toInt64]⟩
  | integer n => exact ⟨_, rfl, by rw [Decimal.value_ofInt64, Int32.toInt_toInt64]⟩
  | bigInt n => exact ⟨_, rfl, Decimal.value_ofInt64 n⟩
  | numeric d => exact ⟨d, rfl, rfl⟩

namespace SqlType

/-- The number of digits behind the point that a type of numbers stores. -/
def places : SqlType → ℕ
  | numeric p => p.scale
  | _ => 0

variable {t : SqlType} {x y : ℚ} {v : Value} {d : Decimal} {column : String} {notNull : Bool}

/-- A type of numbers stores something for each number, unless that is out of range. -/
theorem exists_nearest? (ht : t.range?.isSome = true) (x : ℚ) : ∃ y, t.nearest? x = some y := by
  cases t <;> first | exact ⟨_, rfl⟩ | exact (nomatch ht)

/-- What a type stores for a number lies on its grid. -/
theorem exists_multiple_of_nearest? (h : t.nearest? x = some y) :
    ∃ z : ℤ, y = z / 10 ^ t.places := by
  cases t with
  | numeric p => exact ⟨_, (Option.some.inj h).symm⟩
  | smallInt | integer | smallSerial | serial =>
    exact ⟨wholePart x, by rw [← Option.some.inj h]; simp [places]⟩
  | _ => exact (nomatch h)

/-- What a type stores for a number is less than one step of its grid away. -/
theorem abs_sub_lt_of_nearest? (h : t.nearest? x = some y) : |x - y| < 1 / 10 ^ t.places := by
  cases t with
  | numeric p =>
    have hpos : (0 : ℚ) < 10 ^ p.scale := by positivity
    have hhalf := abs_sub_nearestAway_le (x * 10 ^ p.scale)
    rw [← Option.some.inj h, abs_sub_div_pow]
    exact div_lt_div_of_pos_right (by linarith) hpos
  | smallInt | integer | smallSerial | serial =>
    rw [← Option.some.inj h]
    show |x - wholePart x| < 1 / 10 ^ 0
    rw [pow_zero, div_one]
    exact abs_sub_wholePart_lt x
  | _ => exact (nomatch h)

theorem nearest?_neg (t : SqlType) (x : ℚ) : t.nearest? (-x) = (t.nearest? x).map Neg.neg := by
  cases t with
  | numeric p =>
    simp only [nearest?, Option.map_some, neg_mul, nearestAway_neg, Int.cast_neg, neg_div]
  | smallInt | integer | smallSerial | serial =>
    simp only [nearest?, Option.map_some, wholePart_neg, Int.cast_neg]
  | _ => rfl

/-- What a type of numbers would store is within its range, or reported as out of range. -/
theorem validate_of_decimal? (ht : t.range?.isSome = true) (hd : v.decimal? = some d) :
    t.validate column notNull v =
      if t.admits (t.store d) then .ok (t.pack (t.store d))
      else .error (.outOfRange column t (t.store d)) := by
  have hgiven := isGiven_of_decimal? hd
  rw [validate_of_ne_null hgiven.1, coerce_eq_number ht hgiven, number, hd]
  dsimp only
  split <;> rfl

/-- The form in which a number is stored has room for every number that the type takes. -/
theorem number?_pack (ht : t.range?.isSome = true) (h : t.admits (t.store d) = true) :
    (t.pack (t.store d)).number? = some (t.store d).value := by
  have hincludes := admits_iff.1 h
  have hvalue : ∀ e : Decimal, e.scale = 0 → e.value = e.signed := fun e he => by
    simp [Decimal.value, he]
  cases t with
  | numeric p => rfl
  | smallInt | smallSerial =>
    obtain ⟨hlow, hhigh⟩ : _ ≤ d.truncate.value ∧ d.truncate.value ≤ _ := hincludes _ _ rfl
    have hsigned := hvalue _ (Decimal.truncate_scale d)
    rw [hsigned] at hlow hhigh
    norm_cast at hlow hhigh
    show some ((Int16.ofInt d.truncate.signed).toInt : ℚ) = some d.truncate.value
    rw [Int16.toInt_ofInt_of_le (by omega) (by omega), hsigned]
  | integer | serial =>
    obtain ⟨hlow, hhigh⟩ : _ ≤ d.truncate.value ∧ d.truncate.value ≤ _ := hincludes _ _ rfl
    have hsigned := hvalue _ (Decimal.truncate_scale d)
    rw [hsigned] at hlow hhigh
    norm_cast at hlow hhigh
    show some ((Int32.ofInt d.truncate.signed).toInt : ℚ) = some d.truncate.value
    rw [Int32.toInt_ofInt_of_le (by omega) (by omega), hsigned]
  | _ => cases ht

/-- A type of numbers takes a number if what it would store is within its range. -/
theorem validate_number (ht : t.range?.isSome = true) (hd : v.decimal? = some d)
    (hx : t.nearest? d.value = some x) :
    (t.Includes x → ∃ w, t.validate column notNull v = .ok w ∧ w.number? = some x) ∧
      (¬t.Includes x → ∃ e : Decimal, e.value = x ∧
        t.validate column notNull v = .error (.outOfRange column t e)) := by
  obtain rfl : (t.store d).value = x := Option.some.inj ((nearest?_eq_some ht d).symm.trans hx)
  rw [validate_of_decimal? ht hd]
  constructor
  · intro hincludes
    have hadmits := admits_iff.2 hincludes
    exact ⟨_, if_pos hadmits, number?_pack ht hadmits⟩
  · intro hincludes
    exact ⟨_, rfl, if_neg (mt admits_iff.1 hincludes)⟩

end SqlType

end TypedTable
