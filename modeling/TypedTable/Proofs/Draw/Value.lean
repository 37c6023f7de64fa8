import TypedTable.Proofs.Draw.Scalar
import TypedTable.Proofs.Precision
/-!
# Random values stay inside their types

The expressions that random integers, decimals and texts are drawn from, read from their SQL text
(`ofText?_integer` and its siblings), with the value that each of them has for a number from zero up
to one (`eval_integer` and its siblings).

`SqlType.draws_within` puts this together with what the types say of their own bounds: every value
is one that its type takes as it is, and every integer of a type can be drawn.
-/

namespace TypedTable

/-! ### The expressions -/

namespace Scalar

/-- One of `span` integers, from `low` on. -/
def ofInteger (span : ℕ) (low : ℤ) (width : IntegerWidth) : Scalar :=
  cast (binary (if low < 0 then .minus else .plus)
    (floor (binary .times draw (literal (Text.naturalText span))))
    (literal (Text.naturalText low.natAbs))) (.integer width)

/-- A number below `bound`, cut after `scale` digits. -/
def ofNumeric (bound scale : ℕ) : Scalar :=
  truncate (cast (binary .times draw (literal (Text.naturalText bound))) .numeric)
    (Text.naturalText scale)

/-- The first characters of a hash. -/
def ofCharacters (length : ℕ) : Scalar :=
  part (hash (cast draw .text)) "1" (Text.naturalText length)

theorem ofText?_integer (span : ℕ) (low : ℤ) (width : IntegerWidth) :
    ofText? (Generator.integer span low width).sql = some (ofInteger span low width) := by
  rw [ofText?, lexemes_integer, Option.bind_some, ofInteger]
  cases width <;> split <;> rfl

theorem ofText?_numeric (bound scale : ℕ) :
    ofText? (Generator.numeric bound scale).sql = some (ofNumeric bound scale) := by
  rw [ofText?, lexemes_numeric]
  rfl

theorem ofText?_characters (length : ℕ) :
    ofText? (Generator.characters length).sql = some (ofCharacters length) := by
  rw [ofText?, lexemes_characters]
  rfl

end Scalar

/-! ### Their values -/

section

variable {f : Functions} {r : ℝ}

theorem nearestEven_intCast (n : ℤ) : nearestEven n = n := by
  simp [nearestEven]

/-- A number from zero up to one picks one of `n` integers. -/
theorem floor_mem (h0 : 0 ≤ r) (h1 : r < 1) {n : ℕ} (hn : 0 < n) :
    0 ≤ ⌊r * n⌋ ∧ ⌊r * n⌋ < n := by
  have hpos : (0 : ℝ) < n := Nat.cast_pos.2 hn
  exact ⟨Int.floor_nonneg.2 (mul_nonneg h0 hpos.le),
    Int.floor_lt.2 (mul_lt_of_lt_one_left hpos h1)⟩

/-- Each of `n` integers is picked by some number. -/
theorem exists_floor_eq {n : ℕ} {m : ℤ} (h0 : 0 ≤ m) (h1 : m < n) :
    ∃ r : ℝ, 0 ≤ r ∧ r < 1 ∧ ⌊r * n⌋ = m := by
  have hpos : (0 : ℝ) < n := by
    have hlt : (0 : ℤ) < n := h0.trans_lt h1
    exact_mod_cast hlt
  refine ⟨m / n, div_nonneg (Int.cast_nonneg h0) hpos.le, ?_, ?_⟩
  · rw [div_lt_one hpos]
    exact_mod_cast h1
  · rw [div_mul_cancel₀ _ hpos.ne', Int.floor_intCast]

namespace Scalar

theorem eval_integer {span : ℕ} {low : ℤ} {width : IntegerWidth}
    (h : width.least ≤ low + ⌊r * span⌋ ∧ low + ⌊r * span⌋ ≤ width.greatest) :
    (ofInteger span low width).eval f r = some (.integer width (low + ⌊r * span⌋)) := by
  -- The sign of the least integer is written as the operator.
  have hsum : (if low < 0 then Arithmetic.minus else .plus).apply ⌊r * span⌋ low.natAbs =
      ((low + ⌊r * span⌋ : ℤ) : ℝ) := by
    rw [Nat.cast_natAbs]
    push_cast
    split
    · next hlow =>
      rw [abs_of_neg (by exact_mod_cast hlow), Arithmetic.apply]
      ring
    · next hlow =>
      rw [abs_of_nonneg (by exact_mod_cast not_lt.1 hlow), Arithmetic.apply]
      ring
  have hcast : (CastTarget.integer width).apply f (.number ((low + ⌊r * span⌋ : ℤ) : ℝ)) =
      some (.integer width (low + ⌊r * span⌋)) := by
    rw [CastTarget.apply, Drawn.number?, Option.bind_some, nearestEven_intCast, if_pos h]
  have hproduct : Arithmetic.times.apply r span = r * span := rfl
  simp only [ofInteger, eval, Text.run?_naturalText, Option.map_some, Option.bind_some,
    Drawn.number?, bind, hproduct, hsum]
  exact hcast

theorem eval_numeric {bound scale : ℕ} (h0 : 0 ≤ r) :
    (ofNumeric bound scale).eval f r = some (.decimal ⌊r * bound * 10 ^ scale⌋ scale) := by
  have hpos : 0 ≤ r * bound * 10 ^ scale := by positivity
  have hcut : towardZero (r * bound * 10 ^ scale) = ⌊r * bound * 10 ^ scale⌋ :=
    if_neg (not_lt.2 hpos)
  simp only [ofNumeric, eval, Text.run?_naturalText, Option.map_some, Option.bind_some,
    Drawn.number?, bind, CastTarget.apply, Arithmetic.apply, hcut]

theorem eval_characters (length : ℕ) :
    (ofCharacters length).eval f r = some (.text (substring (f.hash (f.text r)) 1 length)) := by
  have hone : Text.run? "1".toList = some 1 := by decide
  simp only [ofCharacters, eval, Text.run?_naturalText, hone, Option.map_some, Option.bind_some,
    Drawn.number?, Drawn.text?, bind, CastTarget.apply, Option.none_or]

end Scalar

end

theorem length_substring_le (s : String) (length : ℕ) : (substring s 1 length).length ≤ length := by
  rw [substring, String.length_ofList, List.length_drop, List.length_take]
  omega

/-! ### Integers -/

/-- An integer of a width is read back from its value. -/
theorem IntegerWidth.exists_value {width : IntegerWidth} {n : ℤ} (hleast : width.least ≤ n)
    (hgreatest : n ≤ width.greatest) : ∃ m : Int64, m.toInt = n ∧
      (width.value n).decimal? = some (.ofInt64 m) ∧ (width.value n).number? = some (n : ℚ) := by
  cases width with
  | small =>
    have hlow : -32768 ≤ n := hleast
    have hhigh : n ≤ 32767 := hgreatest
    have hn : (Int16.ofInt n).toInt = n := Int16.toInt_ofInt_of_le (by omega) (by omega)
    exact ⟨(Int16.ofInt n).toInt64, by rw [Int16.toInt_toInt64, hn], rfl,
      congrArg (fun m : ℤ => some (m : ℚ)) hn⟩
  | regular =>
    have hlow : -2147483648 ≤ n := hleast
    have hhigh : n ≤ 2147483647 := hgreatest
    have hn : (Int32.ofInt n).toInt = n := Int32.toInt_ofInt_of_le (by omega) (by omega)
    exact ⟨(Int32.ofInt n).toInt64, by rw [Int32.toInt_toInt64, hn], rfl,
      congrArg (fun m : ℤ => some (m : ℚ)) hn⟩

namespace SqlType

/-- How the integers of a type are drawn: one of `span` integers from `low` on, which are those of
the type and fit the width that they are stored in. -/
structure DrawsInteger (t : SqlType) (span : ℕ) (low : ℤ) (width : IntegerWidth) : Prop where
  generator?_eq : t.generator? = some (.integer span low width)
  span_pos : 0 < span
  range?_eq : t.range? = some ((low : ℚ), (low : ℚ) + span - 1)
  least_le : width.least ≤ low
  le_greatest : low + span - 1 ≤ width.greatest
  store_eq : ∀ d, t.store d = d.truncate
  pack_eq : ∀ d, t.pack d = width.value d.signed

/-- Every type of integers draws them. -/
theorem exists_drawsInteger {t : SqlType} (ht : t.isInteger = true) :
    ∃ span low width, t.DrawsInteger span low width := by
  cases t with
  | smallInt =>
    exact ⟨65536, -32768, .small, rfl, by decide, by norm_num [range?], by decide, by decide,
      fun _ => rfl, fun _ => rfl⟩
  | integer =>
    exact ⟨4294967296, -2147483648, .regular, rfl, by decide, by norm_num [range?], by decide,
      by decide, fun _ => rfl, fun _ => rfl⟩
  | smallSerial =>
    exact ⟨32768, 0, .small, rfl, by decide, by norm_num [range?], by decide, by decide,
      fun _ => rfl, fun _ => rfl⟩
  | serial =>
    exact ⟨2147483648, 0, .regular, rfl, by decide, by norm_num [range?], by decide, by decide,
      fun _ => rfl, fun _ => rfl⟩
  | _ => cases ht

variable {t : SqlType} {span : ℕ} {low : ℤ} {width : IntegerWidth}

theorem DrawsInteger.includes_iff (h : t.DrawsInteger span low width) {n : ℤ} :
    t.Includes n ↔ low ≤ n ∧ n ≤ low + span - 1 := by
  rw [Includes, h.range?_eq]
  constructor
  · intro hn
    exact_mod_cast hn _ _ rfl
  · rintro hn _ _ ⟨⟩
    exact_mod_cast hn

/-- The integers of a type are stored as they are. -/
theorem DrawsInteger.coerce_value (h : t.DrawsInteger span low width) {n : ℤ} (hn : t.Includes n) :
    (width.value n).IsGiven ∧ t.coerce (width.value n) = .ok (width.value n) := by
  obtain ⟨hlow, hhigh⟩ := h.includes_iff.1 hn
  obtain ⟨m, hm, hdecimal, -⟩ := IntegerWidth.exists_value (h.least_le.trans hlow)
    (hhigh.trans h.le_greatest)
  have hrange : t.range?.isSome = true := by
    rw [h.range?_eq]
    rfl
  refine ⟨isGiven_of_decimal? hdecimal, coerce_eq_self hrange hdecimal ?_ ?_ ?_⟩
  · rw [h.store_eq, Decimal.truncate_ofInt64]
  · rw [h.pack_eq, Decimal.signed_ofInt64, hm]
  · rwa [Decimal.value_ofInt64, hm]

variable {f : Functions} {r : ℝ}

theorem drawn?_integer (h : t.DrawsInteger span low width) (h0 : 0 ≤ r) (h1 : r < 1) :
    t.Includes (low + ⌊r * span⌋ : ℤ) ∧
      drawn? f r (Generator.integer span low width).sql =
        some (width.value (low + ⌊r * span⌋)) := by
  obtain ⟨hfirst, hlast⟩ := floor_mem h0 h1 h.span_pos
  have hincludes : t.Includes (low + ⌊r * span⌋ : ℤ) :=
    h.includes_iff.2 ⟨by omega, by omega⟩
  obtain ⟨hlow, hhigh⟩ := h.includes_iff.1 hincludes
  refine ⟨hincludes, ?_⟩
  rw [drawn?, Scalar.ofText?_integer, Option.bind_some,
    Scalar.eval_integer ⟨h.least_le.trans hlow, hhigh.trans h.le_greatest⟩]
  rfl

/-! ### Decimals and texts -/

/-- The digits of a numeric type are a decimal of the type. -/
theorem exists_value_decimal {p : Precision} {m : ℤ} (h0 : 0 ≤ m) (h1 : m < (10 ^ p.digits : ℕ)) :
    ∃ d, (Drawn.decimal m p.scale).value? = some (.numeric d) ∧ d.scale = p.scale ∧
      (numeric p).Includes d.value := by
  have hpow : (10 : ℕ) ^ p.digits ≤ 10 ^ maxPrecision :=
    Nat.pow_le_pow_right (by decide) p.digits_mem.2
  have hmax : (10 : ℕ) ^ maxPrecision < Decimal.limit := by decide
  have hfits : m.natAbs < Decimal.limit ∧ p.scale ≤ Decimal.maxScale :=
    ⟨by omega, p.scale_le.trans p.digits_mem.2⟩
  refine ⟨_, dif_pos hfits, rfl, ?_⟩
  have hsign : (decide (m < 0) && m.natAbs != 0) = false := by
    rw [decide_eq_false (not_lt.2 h0), Bool.false_and]
  have hle : (m.natAbs : ℚ) ≤ 10 ^ p.digits - 1 := by
    have hlt : m.natAbs + 1 ≤ 10 ^ p.digits := by omega
    have hcast : (m.natAbs : ℚ) + 1 ≤ 10 ^ p.digits := by exact_mod_cast hlt
    linarith
  rw [includes_numeric_iff, Decimal.value_of_not_negative hsign, Decimal.magnitude,
    abs_of_nonneg (by positivity)]
  push_cast
  exact div_le_div_of_nonneg_right hle (by positivity)

theorem drawn?_numeric (p : Precision) (h0 : 0 ≤ r) (h1 : r < 1) :
    ∃ d, drawn? f r (Generator.numeric (Nat.pow 10 (p.digits - p.scale)) p.scale).sql =
      some (.numeric d) ∧ d.scale = p.scale ∧ (numeric p).Includes d.value := by
  have hpow : r * (Nat.pow 10 (p.digits - p.scale) : ℕ) * 10 ^ p.scale =
      r * (10 ^ p.digits : ℕ) := by
    have hdigits : (10 : ℝ) ^ p.digits = 10 ^ (p.digits - p.scale) * 10 ^ p.scale := by
      rw [← pow_add, Nat.sub_add_cancel p.scale_le]
    simp only [Nat.pow_eq, Nat.cast_pow, Nat.cast_ofNat, hdigits, mul_assoc]
  obtain ⟨hfirst, hlast⟩ := floor_mem h0 h1 (n := 10 ^ p.digits) (Nat.pow_pos (by decide))
  obtain ⟨d, hvalue, hscale, hincludes⟩ := exists_value_decimal hfirst hlast
  refine ⟨d, ?_, hscale, hincludes⟩
  rw [drawn?, Scalar.ofText?_numeric, Option.bind_some, Scalar.eval_numeric h0, hpow]
  exact hvalue

theorem drawn?_characters (length : ℕ) :
    ∃ s, drawn? f r (Generator.characters length).sql = some (.text s) ∧ s.length ≤ length := by
  refine ⟨_, ?_, length_substring_le (f.hash (f.text r)) length⟩
  rw [drawn?, Scalar.ofText?_characters, Option.bind_some, Scalar.eval_characters]
  rfl

/-! ### Types -/

/-- A value that its type leaves as it is can be stored and is valid. -/
theorem stores_of_coerce_self {v : Value} (hv : v.IsGiven) (h : t.coerce v = .ok v) :
    t.Stores v ∧ ∀ column notNull, t.validate column notNull v = .ok v := by
  refine ⟨stores_of_coerce hv h, fun column notNull => ?_⟩
  rw [validate_of_ne_null hv.1, h]
  rfl

/-- The types that draw numbers and texts. -/
theorem draws_cases (ht : t.range?.isSome = true ∨ ∃ l, t = .varChar l) :
    t.isInteger = true ∨ (∃ p, t = .numeric p) ∨ ∃ l, t = .varChar l := by
  rcases ht with hrange | hlength
  · cases t with
    | smallInt | integer | smallSerial | serial => exact .inl rfl
    | numeric p => exact .inr (.inl ⟨p, rfl⟩)
    | _ => cases hrange
  · exact .inr (.inr hlength)

/-- What a type draws stays inside the type, for every type of numbers and every text type with a
length, and for whatever `r` from zero up to one `RANDOM()` gives.

* There is a value. It is in the form that the type stores and in its range, has no more places or
  characters than the type says, and is valid as it is.
* Every integer of a type of integers is drawn for some `r`. -/
theorem draws_within (f : Functions) {t : SqlType}
    (ht : t.range?.isSome = true ∨ ∃ l, t = .varChar l) :
    ∃ g, t.generator? = some g ∧
      (∀ r : ℝ, 0 ≤ r → r < 1 → ∃ v, drawn? f r g.sql = some v ∧ t.Stores v ∧
        (∀ p d, t = .numeric p → v = .numeric d → d.scale ≤ p.scale) ∧
        (∀ l s, t = .varChar l → v = .text s → s.length ≤ l.size) ∧
        ∀ column notNull, t.validate column notNull v = .ok v) ∧
      (t.isInteger = true → ∀ n : ℤ, t.Includes n →
        ∃ r v, (0 ≤ r ∧ r < 1) ∧ drawn? f r g.sql = some v ∧ v.number? = some (n : ℚ)) := by
  rcases draws_cases ht with hinteger | ⟨p, rfl⟩ | ⟨l, rfl⟩
  · obtain ⟨span, low, width, h⟩ := exists_drawsInteger hinteger
    refine ⟨_, h.generator?_eq, fun r h0 h1 => ?_, fun _ n hn => ?_⟩
    · obtain ⟨hincludes, hdrawn⟩ := drawn?_integer (f := f) h h0 h1
      obtain ⟨hgiven, hcoerce⟩ := h.coerce_value hincludes
      obtain ⟨hstores, hvalid⟩ := stores_of_coerce_self hgiven hcoerce
      refine ⟨_, hdrawn, hstores, ?_, ?_, hvalid⟩
      · rintro p d rfl
        cases hinteger
      · rintro l s rfl
        cases hinteger
    · obtain ⟨hlow, hhigh⟩ := h.includes_iff.1 hn
      obtain ⟨r, h0, h1, hfloor⟩ := exists_floor_eq (n := span) (m := n - low) (by omega) (by omega)
      obtain ⟨-, hdrawn⟩ := drawn?_integer (f := f) h h0 h1
      rw [hfloor, add_sub_cancel] at hdrawn
      obtain ⟨-, -, -, hnumber⟩ := IntegerWidth.exists_value (h.least_le.trans hlow)
        (hhigh.trans h.le_greatest)
      exact ⟨r, _, ⟨h0, h1⟩, hdrawn, hnumber⟩
  · refine ⟨_, rfl, fun r h0 h1 => ?_, fun hinteger => by cases hinteger⟩
    obtain ⟨d, hdrawn, hscale, hincludes⟩ := drawn?_numeric (f := f) p h0 h1
    have hcoerce : (numeric p).coerce (.numeric d) = .ok (.numeric d) :=
      coerce_eq_self rfl rfl (store_of_scale_le hscale.le) rfl hincludes
    obtain ⟨hstores, hvalid⟩ := stores_of_coerce_self (isGiven_of_decimal? rfl) hcoerce
    refine ⟨_, hdrawn, hstores, ?_, ?_, hvalid⟩
    · rintro _ _ ⟨⟩ ⟨⟩
      exact hscale.le
    · rintro _ _ ⟨⟩
  · refine ⟨_, rfl, fun r _ _ => ?_, fun hinteger => by cases hinteger⟩
    obtain ⟨s, hdrawn, hlength⟩ := drawn?_characters (f := f) (r := r) l.size
    have hgiven : Value.IsGiven (.text s) := ⟨Value.noConfusion, fun _ => Value.noConfusion⟩
    obtain ⟨hstores, hvalid⟩ := stores_of_coerce_self (t := .varChar l) hgiven rfl
    refine ⟨_, hdrawn, hstores, ?_, ?_, hvalid⟩
    · rintro _ _ ⟨⟩
    · rintro _ _ ⟨⟩ ⟨⟩
      exact hlength

end SqlType

/-! ### Vouchers -/

namespace Voucher

/-- The type of a code. -/
def code : SqlType := .varChar ⟨11, by decide⟩

/-- A server that draws one half. -/
def server : Functions where
  text _ := "0.5"
  hash _ := "d310cb367d993fb6fb584b198a2fd72c"

/-- A code is the beginning of the hash, and its column takes it. -/
theorem draws_within_code :
    drawn? server (1 / 2) "SUBSTRING(MD5(CAST(RANDOM() AS TEXT)) FROM 1 FOR 11)" =
        some (.text "d310cb367d9") ∧
      ∀ column notNull, code.validate column notNull (.text "d310cb367d9") =
        .ok (.text "d310cb367d9") := by
  obtain ⟨g, hg, hdraws, -⟩ := SqlType.draws_within server (t := code) (.inr ⟨_, rfl⟩)
  obtain rfl := Option.some.inj hg
  obtain ⟨v, hdrawn, -, -, -, hvalid⟩ := hdraws (1 / 2) (by norm_num) (by norm_num)
  have hsql : (Generator.characters 11).sql =
      "SUBSTRING(MD5(CAST(RANDOM() AS TEXT)) FROM 1 FOR 11)" := by decide
  have hcode : drawn? server (1 / 2) (Generator.characters 11).sql =
      some (.text "d310cb367d9") := by
    rw [drawn?, Scalar.ofText?_characters, Option.bind_some, Scalar.eval_characters]
    rfl
  obtain rfl := Option.some.inj (hdrawn.symm.trans hcode)
  exact ⟨hsql ▸ hcode, hvalid⟩

end Voucher

end TypedTable
