import TypedTable.Proofs.Rounding
/-!
# Numeric types

A numeric type can be declared with up to 28 digits, any of them behind the point
(`SqlType.ofPrecision_eq_ok_iff`), so the digits of its greatest number fit a decimal. It takes a
number exactly if the nearest multiple of its last place has no more digits than the type, and
stores that multiple; otherwise it reports the multiple as out of range. So storing turns with the
sign and keeps the order of numbers (`SqlType.numeric_rounds`).
-/

namespace TypedTable

namespace SqlType

/-! ### The bounds of a numeric type -/

theorem ofPrecision_eq_ok_iff {precision scale : ℕ} {t : SqlType} :
    ofPrecision precision scale = .ok t ↔
      ∃ p : Precision, p.digits = precision ∧ p.scale = scale ∧ t = .numeric p := by
  unfold ofPrecision
  constructor
  · intro h
    split at h
    · cases h
    · split at h
      · cases h
      · split at h
        · cases h
        · cases h
          exact ⟨_, rfl, rfl, rfl⟩
  · rintro ⟨p, rfl, rfl, rfl⟩
    have hdigits := p.digits_mem
    have hscale := p.scale_le
    rw [dif_neg (by omega), dif_neg (by omega), dif_neg (by omega)]

/-- A numeric type can be declared with 1 to 28 digits, at most all of them behind the point. -/
theorem exists_ofPrecision_iff {precision scale : ℕ} :
    (∃ t, ofPrecision precision scale = .ok t) ↔
      1 ≤ precision ∧ precision ≤ 28 ∧ scale ≤ precision := by
  constructor
  · rintro ⟨t, ht⟩
    obtain ⟨p, rfl, rfl, -⟩ := ofPrecision_eq_ok_iff.1 ht
    exact ⟨p.digits_mem.1, p.digits_mem.2, p.scale_le⟩
  · rintro ⟨hpos, hmax, hscale⟩
    exact ⟨_, ofPrecision_eq_ok_iff.2 ⟨⟨precision, scale, ⟨hpos, hmax⟩, hscale⟩, rfl, rfl, rfl⟩⟩

variable {p : Precision}

/-- The greatest number of a numeric type has all its digits nine. -/
theorem greatest_eq (p : Precision) :
    (10 : ℚ) ^ (p.digits - p.scale) - 1 / 10 ^ p.scale = (10 ^ p.digits - 1) / 10 ^ p.scale := by
  have hpow : (10 : ℚ) ^ p.digits = 10 ^ (p.digits - p.scale) * 10 ^ p.scale := by
    rw [← pow_add, Nat.sub_add_cancel p.scale_le]
  rw [hpow]
  field_simp

/-- A numeric type has room for the numbers up to its greatest one, of either sign. -/
theorem includes_numeric_iff {x : ℚ} :
    (numeric p).Includes x ↔ |x| ≤ (10 ^ p.digits - 1) / 10 ^ p.scale := by
  rw [← greatest_eq, abs_le]
  constructor
  · exact fun h => h _ _ rfl
  · rintro h _ _ ⟨⟩
    exact h

/-- The digits of a numeric type in front of its point bound its numbers. -/
theorem lt_of_includes_numeric {x : ℚ} (h : (numeric p).Includes x) :
    |x| < 10 ^ (p.digits - p.scale) := by
  rw [includes_numeric_iff, ← greatest_eq] at h
  have hpos : (0 : ℚ) < 1 / 10 ^ p.scale := by positivity
  linarith

/-! ### What a numeric type stores -/

variable {v v' : Value} {x x' : ℚ} {d d' : Decimal}

/-- A numeric type that converts a number stores the nearest multiple of its last place. -/
theorem value_of_convert (hv : v.Denotes x) (h : (numeric p).convert v = .ok (.numeric d)) :
    d.value = nearestAway (x * 10 ^ p.scale) / 10 ^ p.scale ∧ (numeric p).Includes d.value := by
  obtain ⟨e, he, rfl⟩ := hv.exists_decimal?
  rw [convert_eq_ok, coerce_eq_number rfl (isGiven_of_decimal? he), map_eq_ok] at h
  obtain ⟨_, hnumber, ⟨⟩⟩ := h
  obtain ⟨_, he', hadmits, rfl⟩ := number_eq_ok.1 hnumber
  cases he.symm.trans he'
  exact ⟨e.value_round p.scale, admits_iff.1 hadmits⟩

/-- A numeric type converts the numbers whose nearest multiple it has room for. -/
theorem exists_convert (hv : v.Denotes x)
    (h : (numeric p).Includes (nearestAway (x * 10 ^ p.scale) / 10 ^ p.scale)) :
    ∃ d, (numeric p).convert v = .ok (.numeric d) := by
  obtain ⟨e, he, rfl⟩ := hv.exists_decimal?
  rw [← e.value_round] at h
  refine ⟨e.round p.scale, ?_⟩
  rw [convert_eq_ok, coerce_eq_number rfl (isGiven_of_decimal? he), map_eq_ok]
  exact ⟨_, number_eq_ok.2 ⟨e, he, admits_iff.2 h, rfl⟩, rfl⟩

/-- A numeric type stores the opposite of a number that it stores. -/
theorem exists_convert_neg (hv : v.Denotes x) (hv' : v'.Denotes (-x))
    (h : (numeric p).convert v = .ok (.numeric d)) :
    ∃ d', (numeric p).convert v' = .ok (.numeric d') ∧ d'.value = -d.value := by
  obtain ⟨hvalue, hincludes⟩ := value_of_convert hv h
  have hneg : (nearestAway (-x * 10 ^ p.scale) : ℚ) / 10 ^ p.scale = -d.value := by
    rw [neg_mul, nearestAway_neg, Int.cast_neg, neg_div, hvalue]
  obtain ⟨d', hd'⟩ : ∃ d', (numeric p).convert v' = .ok (.numeric d') := by
    refine exists_convert hv' ?_
    rw [hneg, includes_numeric_iff, abs_neg]
    exact includes_numeric_iff.1 hincludes
  exact ⟨d', hd', (value_of_convert hv' hd').1.trans hneg⟩

/-- A numeric type keeps the order of the numbers that it stores. -/
theorem value_le_of_convert (hv : v.Denotes x) (hv' : v'.Denotes x') (hle : x ≤ x')
    (h : (numeric p).convert v = .ok (.numeric d))
    (h' : (numeric p).convert v' = .ok (.numeric d')) : d.value ≤ d'.value := by
  rw [(value_of_convert hv h).1, (value_of_convert hv' h').1]
  have hmono := nearestAway_mono (mul_le_mul_of_nonneg_right hle
    (show (0 : ℚ) ≤ 10 ^ p.scale by positivity))
  gcongr

/-- A numeric type rounds to its last place and takes what then has no more than its digits.

* It can be declared with 1 to 28 digits and at most as many places. Its greatest number, all its
  digits nine, is computed in less than 128 bits and fits a decimal.
* A number is taken exactly if the nearest multiple of the last place, of two the one further from
  zero, is no greater than that, and is stored as this multiple, with no more digits on either side
  of the point than the type has. Otherwise this multiple is reported as out of range.
* The opposite of a number that is taken is stored as the opposite, and the order of numbers is
  kept. -/
theorem numeric_rounds (precision scale : ℕ) :
    ((∃ t, ofPrecision precision scale = .ok t) ↔
      1 ≤ precision ∧ precision ≤ 28 ∧ scale ≤ precision) ∧
    ∀ t, ofPrecision precision scale = .ok t →
      (10 ^ precision < 2 ^ 127 ∧ 10 ^ precision - 1 < Decimal.limit ∧ scale ≤ Decimal.maxScale) ∧
      (∀ column notNull v x, v.Denotes x → ∃ r, IsNearestMultiple scale x r ∧
        (|r| ≤ (10 ^ precision - 1) / 10 ^ scale → ∃ d : Decimal,
          t.validate column notNull v = .ok (.numeric d) ∧ d.value = r ∧ d.scale ≤ scale ∧
          |d.value| < 10 ^ (precision - scale)) ∧
        (¬|r| ≤ (10 ^ precision - 1) / 10 ^ scale → ∃ d : Decimal,
          t.validate column notNull v = .error (.outOfRange column t d) ∧ d.value = r)) ∧
      (∀ v v' x d, v.Denotes x → v'.Denotes (-x) → t.convert v = .ok (.numeric d) →
        ∃ d', t.convert v' = .ok (.numeric d') ∧ d'.value = -d.value) ∧
      (∀ v v' x x' d d', v.Denotes x → v'.Denotes x' → x ≤ x' → t.convert v = .ok (.numeric d) →
        t.convert v' = .ok (.numeric d') → d.value ≤ d'.value) := by
  refine ⟨exists_ofPrecision_iff, fun t ht => ?_⟩
  obtain ⟨p, rfl, rfl, rfl⟩ := ofPrecision_eq_ok_iff.1 ht
  have hpow : 10 ^ p.digits ≤ 10 ^ maxPrecision :=
    Nat.pow_le_pow_right (by decide) p.digits_mem.2
  refine ⟨⟨hpow.trans_lt (by decide), p.greatest.mantissa_lt,
      p.scale_le.trans p.digits_mem.2⟩, fun column notNull v x hv => ?_,
    fun v v' x d hv hv' h => exists_convert_neg hv hv' h,
    fun v v' x x' d d' hv hv' hle h h' => value_le_of_convert hv hv' hle h h'⟩
  obtain ⟨e, he, rfl⟩ := hv.exists_decimal?
  have hrounded := e.value_round p.scale
  refine ⟨(e.round p.scale).value, hrounded ▸ isNearestMultiple_nearestAway p.scale e.value, ?_, ?_⟩
  · intro hle
    have hincludes := includes_numeric_iff.2 hle
    exact ⟨e.round p.scale, (validate_of_decimal? rfl he).trans (if_pos (admits_iff.2 hincludes)),
      rfl, e.round_scale_le p.scale, lt_of_includes_numeric hincludes⟩
  · intro hlarge
    have hincludes := mt includes_numeric_iff.1 hlarge
    exact ⟨e.round p.scale,
      (validate_of_decimal? rfl he).trans (if_neg (mt admits_iff.1 hincludes)), rfl⟩

end SqlType

/-! ### Prices -/

namespace Price

/-- The greatest price and a number of tenths of a cent. -/
def above (digits : ℕ) (h : digits < 10) : Decimal :=
  .ofParts false (9999990 + digits) 3
    (by
      have := Decimal.limit_eq
      omega)
    (by decide)

/-- A price of half a cent more than the greatest one rounds up to a number with too many digits; a
price below that rounds down to the greatest one, and its opposite to the least. -/
theorem numeric_rounds_price :
    SqlType.ofPrecision 6 2 = .ok type ∧
    (∃ d : Decimal, type.validate "price" true (.numeric (above 4 (by decide))) =
      .ok (.numeric d) ∧ d.value = 9999.99 ∧ d.scale ≤ 2 ∧ |d.value| < 10 ^ 4) ∧
    (∃ d : Decimal, type.validate "price" true (.numeric (above 5 (by decide))) =
      .error (.outOfRange "price" type d) ∧ d.value = 10000) ∧
    (∃ d d' : Decimal, type.convert (.numeric (above 4 (by decide))) = .ok (.numeric d) ∧
      type.convert (.numeric (above 4 (by decide)).negate) = .ok (.numeric d') ∧
      d'.value = -d.value ∧ d'.value ≤ d.value) := by
  have htype : SqlType.ofPrecision 6 2 = .ok type := rfl
  have hvalue : ∀ digits h, (above digits h).value = (9999990 + digits) / 1000 := by
    intro digits h
    norm_num [above, Decimal.value, Decimal.signed, Decimal.ofParts]
  obtain ⟨-, hstored, hneg, hmono⟩ := (SqlType.numeric_rounds 6 2).2 type htype
  have hnearest : ∀ {digits h r}, IsNearestMultiple 2 (above digits h).value r →
      r = nearestAway ((9999990 + digits) / 1000 * 10 ^ 2) / 10 ^ 2 := fun hr =>
    hvalue _ _ ▸ hr.unique (isNearestMultiple_nearestAway 2 _)
  refine ⟨htype, ?_, ?_, ?_⟩
  · obtain ⟨r, hr, htaken, -⟩ := hstored "price" true _ _ (.numeric (above 4 (by decide)))
    have hr : r = 9999.99 := by
      rw [hnearest hr]
      norm_num [nearestAway]
    subst hr
    exact htaken (by norm_num)
  · obtain ⟨r, hr, -, hrefused⟩ := hstored "price" true _ _ (.numeric (above 5 (by decide)))
    have hr : r = 10000 := by
      rw [hnearest hr]
      norm_num [nearestAway]
    subst hr
    exact hrefused (by norm_num)
  · have hconvert : type.convert (.numeric (above 4 (by decide))) =
        .ok (.numeric ((above 4 (by decide)).round 2)) := by decide +kernel
    have hopposite : Value.Denotes (.numeric (above 4 (by decide)).negate)
        (-(above 4 (by decide)).value) := Decimal.value_negate _ ▸ .numeric _
    obtain ⟨d', hd', hneg⟩ := hneg _ _ _ _ (.numeric (above 4 (by decide))) hopposite hconvert
    refine ⟨_, d', hconvert, hd', hneg, hmono _ _ _ _ _ _ hopposite (.numeric _) ?_ hd' hconvert⟩
    rw [hvalue]
    norm_num

end Price

end TypedTable
