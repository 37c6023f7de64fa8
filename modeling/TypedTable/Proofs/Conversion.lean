import TypedTable.Conversion
import TypedTable.Proofs.Number
import TypedTable.Wire.Cell
/-!
# Conversion and validation of values

What a type makes of a value that is given (`Value.IsGiven`), neither null nor left to the server,
is of the one kind that the type stores, lies in its range, is stored as it is from then on, and can
be sent as the wire type of the type (`SqlType.Stores`). A value that is refused is either a number
that the type would store outside its range (`SqlType.Exceeds`) or one that it has no form for.

`SqlType.conversion_sound` says this of `SqlType.convert` and of `SqlType.validate`, which differ in
what they make of null only.
-/

namespace TypedTable

open Wire

/-- Whether a value is neither null nor left to the server. -/
def Value.IsGiven (v : Value) : Prop := v ≠ .null ∧ ∀ sql, v ≠ .random sql

/-- The number of a value that is stored as one. -/
def Value.number? : Value → Option ℚ
  | .smallInt n => some n.toInt
  | .integer n => some n.toInt
  | .numeric d => some d.value
  | _ => none

namespace SqlType

/-- The type that the values of a column are sent as. -/
def wireType : SqlType → WireType
  | boolean => .bool
  | smallInt | smallSerial => .int2
  | integer | serial => .int4
  | numeric _ => .numeric
  | date => .date
  | timestampTz => .timestamptz
  | varChar _ => .varchar
  | text => .text

/-- The values that are of the one kind that a type stores. -/
inductive Form : SqlType → Value → Prop
  | boolean (b : Bool) : Form .boolean (.bool b)
  | smallInt (n : Int16) : Form .smallInt (.smallInt n)
  | integer (n : Int32) : Form .integer (.integer n)
  | smallSerial (n : Int16) : Form .smallSerial (.smallInt n)
  | serial (n : Int32) : Form .serial (.integer n)
  | numeric (p : Precision) (d : Decimal) : Form (.numeric p) (.numeric d)
  | date (d : Date) : Form .date (.date d)
  | timestampTz (t : Timestamp) : Form .timestampTz (.timestamp t)
  | varChar (l : Length) (s : String) : Form (.varChar l) (.text s)
  | text (s : String) : Form .text (.text s)

/-- Whether a value is in the form that a type stores. -/
structure Stores (t : SqlType) (w : Value) : Prop where
  form : t.Form w
  inRange : ∀ low high, t.range? = some (low, high) → ∃ q, w.number? = some q ∧ low ≤ q ∧ q ≤ high
  fixed : t.convert w = .ok w
  encodes : ∃ bytes, w.encode t.wireType = .ok (some bytes)

/-- The number that a type of numbers would store for another one: an integer type cuts the fraction
off, and a numeric type rounds it. -/
def nearest? : SqlType → ℚ → Option ℚ
  | smallInt, x | integer, x | smallSerial, x | serial, x => some (wholePart x)
  | numeric p, x => some (nearestAway (x * 10 ^ p.scale) / 10 ^ p.scale)
  | _, _ => none

/-- Whether a value stands for a number that a type would store as `q`, and that is outside the
range of the type. -/
def Exceeds (t : SqlType) (v : Value) (q : ℚ) : Prop :=
  ∃ d low high, v.decimal? = some d ∧ t.nearest? d.value = some q ∧
    t.range? = some (low, high) ∧ (q < low ∨ high < q)

/-! ### What is stored -/

/-- A number that a type stores is within its range. -/
theorem includes_of_number {t : SqlType} {store : Decimal → Decimal} {v : Value} {d : Decimal}
    (h : t.number store v = .ok d) : t.Includes d.value := by
  obtain ⟨x, -, hadmits, rfl⟩ := number_eq_ok.1 h
  exact admits_iff.1 hadmits

/-- The number of an integer that a type stores is that of the decimal without its fraction. -/
theorem value_of_number_truncate {t : SqlType} {v : Value} {d : Decimal}
    (h : t.number Decimal.truncate v = .ok d) : d.value = d.signed := by
  obtain ⟨x, -, -, rfl⟩ := number_eq_ok.1 h
  simp [Decimal.value]

/-- A small integer has room for what a type stores whose bounds it has room for. -/
theorem exists_smallInt {t : SqlType} {low high : Int64}
    (hbounds : t.bounds? = some (.ofInt64 low, .ofInt64 high)) (hlow : -32768 ≤ low.toInt)
    (hhigh : high.toInt < 32768) {v w : Value}
    (h : (t.number Decimal.truncate v).map (fun d => .smallInt (Int16.ofInt d.signed)) = .ok w) :
    ∃ n : Int16, w = .smallInt n ∧ t.Includes n.toInt := by
  obtain ⟨d, hd, rfl⟩ := map_eq_ok.1 h
  obtain ⟨x, -, hadmits, hx⟩ := number_eq_ok.1 hd
  have hscale : d.scale = 0 := by rw [hx, Decimal.truncate_scale]
  obtain ⟨hleast, hmost⟩ := signed_mem hbounds hscale (hx ▸ hadmits)
  refine ⟨_, rfl, ?_⟩
  rw [Int16.toInt_ofInt_of_le (by omega) (by omega), ← value_of_number_truncate hd]
  exact includes_of_number hd

/-- An integer has room for what a type stores whose bounds it has room for. -/
theorem exists_integer {t : SqlType} {low high : Int64}
    (hbounds : t.bounds? = some (.ofInt64 low, .ofInt64 high)) (hlow : -2147483648 ≤ low.toInt)
    (hhigh : high.toInt < 2147483648) {v w : Value}
    (h : (t.number Decimal.truncate v).map (fun d => .integer (Int32.ofInt d.signed)) = .ok w) :
    ∃ n : Int32, w = .integer n ∧ t.Includes n.toInt := by
  obtain ⟨d, hd, rfl⟩ := map_eq_ok.1 h
  obtain ⟨x, -, hadmits, hx⟩ := number_eq_ok.1 hd
  have hscale : d.scale = 0 := by rw [hx, Decimal.truncate_scale]
  obtain ⟨hleast, hmost⟩ := signed_mem hbounds hscale (hx ▸ hadmits)
  refine ⟨_, rfl, ?_⟩
  rw [Int32.toInt_ofInt_of_le (by omega) (by omega), ← value_of_number_truncate hd]
  exact includes_of_number hd

/-- What a type makes of a given value is of the kind that it stores and, if it is a number, in the
range of the type. -/
theorem form_of_coerce {t : SqlType} {v w : Value} (hv : v.IsGiven) (h : t.coerce v = .ok w) :
    t.Form w ∧ ∀ q, w.number? = some q → t.Includes q := by
  unfold coerce at h
  split at h
  · exact absurd rfl hv.1
  · exact absurd rfl (hv.2 _)
  · split at h
    · obtain ⟨b, -, rfl⟩ := Option.map_eq_some_iff.1 (supported_eq_ok.1 h)
      exact ⟨.boolean b, fun q hq => (nomatch hq)⟩
    · obtain ⟨n, rfl, hn⟩ := @exists_smallInt .smallInt (-32768) 32767 rfl (by decide) (by decide)
        _ _ h
      exact ⟨.smallInt n, fun q hq => Option.some.inj hq ▸ hn⟩
    · obtain ⟨n, rfl, hn⟩ := @exists_smallInt .smallSerial 0 32767 rfl (by decide) (by decide) _ _ h
      exact ⟨.smallSerial n, fun q hq => Option.some.inj hq ▸ hn⟩
    · obtain ⟨n, rfl, hn⟩ := @exists_integer .integer (-2147483648) 2147483647 rfl (by decide)
        (by decide) _ _ h
      exact ⟨.integer n, fun q hq => Option.some.inj hq ▸ hn⟩
    · obtain ⟨n, rfl, hn⟩ := @exists_integer .serial 0 2147483647 rfl (by decide) (by decide) _ _ h
      exact ⟨.serial n, fun q hq => Option.some.inj hq ▸ hn⟩
    · next p =>
      obtain ⟨d, hd, rfl⟩ := map_eq_ok.1 h
      exact ⟨.numeric p d, fun q hq => Option.some.inj hq ▸ includes_of_number hd⟩
    · obtain ⟨d, -, rfl⟩ := Option.map_eq_some_iff.1 (supported_eq_ok.1 h)
      exact ⟨.date d, fun q hq => (nomatch hq)⟩
    · obtain ⟨t, -, rfl⟩ := Option.map_eq_some_iff.1 (supported_eq_ok.1 h)
      exact ⟨.timestampTz t, fun q hq => (nomatch hq)⟩
    · cases h
      exact ⟨.varChar _ _, fun q hq => (nomatch hq)⟩
    · cases h
      exact ⟨.text _, fun q hq => (nomatch hq)⟩

/-- A type with a range stores numbers. -/
theorem Form.isSome_number? {t : SqlType} {w : Value} (h : t.Form w)
    (hrange : t.range?.isSome = true) : w.number?.isSome = true := by
  cases h <;> first | rfl | exact (nomatch hrange)

/-- A value of the kind that a type stores can be sent. -/
theorem Form.exists_encode {t : SqlType} {w : Value} (h : t.Form w) :
    ∃ bytes, w.encode t.wireType = .ok (some bytes) := by
  cases h <;> exact ⟨_, rfl⟩

/-- What a type makes of a given value is in the form that it stores. -/
theorem stores_of_coerce {t : SqlType} {v w : Value} (hv : v.IsGiven) (h : t.coerce v = .ok w) :
    t.Stores w where
  form := (form_of_coerce hv h).1
  inRange low high hrange := by
    obtain ⟨hform, hincludes⟩ := form_of_coerce hv h
    obtain ⟨q, hq⟩ := Option.isSome_iff_exists.1 (hform.isSome_number? (by rw [hrange]; rfl))
    exact ⟨q, hq, hincludes q hq low high hrange⟩
  fixed := mapError_eq_ok.2 (coerce_coerce h)
  encodes := (form_of_coerce hv h).1.exists_encode

/-- A type makes null of null only. -/
theorem coerce_eq_null {t : SqlType} {v : Value} : t.coerce v = .ok .null ↔ v = .null := by
  constructor
  · intro h
    by_contra hv
    have hgiven : v.IsGiven := ⟨hv, fun sql hsql => by
      rw [hsql, coerce_random] at h
      exact (nomatch h)⟩
    exact (nomatch (form_of_coerce hgiven h).1)
  · rintro rfl
    rfl

/-! ### What is refused -/

/-- The decimal that a type of numbers stores for another one. -/
def store : SqlType → Decimal → Decimal
  | numeric p, d => d.round p.scale
  | _, d => d.truncate

/-- The form that a type of numbers gives to what it stores. -/
def pack : SqlType → Decimal → Value
  | numeric _, d => .numeric d
  | integer, d | serial, d => .integer (Int32.ofInt d.signed)
  | _, d => .smallInt (Int16.ofInt d.signed)

/-- A type of numbers checks what it would store. -/
theorem coerce_eq_number {t : SqlType} {v : Value} (ht : t.range?.isSome = true) (hv : v.IsGiven) :
    t.coerce v = (t.number t.store v).map t.pack := by
  unfold coerce
  split
  · exact absurd rfl hv.1
  · exact absurd rfl (hv.2 _)
  · cases t <;> first | rfl | exact (nomatch ht)

theorem nearest?_eq_some {t : SqlType} (ht : t.range?.isSome = true) (d : Decimal) :
    t.nearest? d.value = some (t.store d).value := by
  cases t with
  | numeric p => exact congrArg some (d.value_round p.scale).symm
  | smallInt | integer | smallSerial | serial => exact congrArg some d.value_truncate.symm
  | _ => exact (nomatch ht)

/-- No number is out of range for a type without a range. -/
theorem coerce_ne_outOfRange {t : SqlType} (ht : t.range? = none) (v : Value) (d : Decimal) :
    t.coerce v ≠ .error (.outOfRange d) := by
  have hsupported : ∀ r : Option Value, supported r ≠ .error (.outOfRange d) := by
    rintro (_ | w) h <;> exact (nomatch h)
  unfold coerce
  split
  · exact fun h => (nomatch h)
  · exact fun h => (nomatch h)
  · cases t with
    | boolean | date | timestampTz => exact hsupported _
    | varChar _ | text => exact fun h => (nomatch h)
    | _ => cases ht

theorem number_eq_outOfRange {t : SqlType} {store : Decimal → Decimal} {v : Value} {e : Decimal} :
    t.number store v = .error (.outOfRange e) ↔
      ∃ d, v.decimal? = some d ∧ ¬t.admits (store d) = true ∧ e = store d := by
  unfold number
  cases v.decimal? with
  | none => exact ⟨fun h => (nomatch h), fun ⟨_, h, _⟩ => (nomatch h)⟩
  | some d =>
    dsimp only
    split
    · next hadmits =>
      refine ⟨fun h => (nomatch h), ?_⟩
      rintro ⟨_, ⟨⟩, h, -⟩
      exact absurd hadmits h
    · next hadmits =>
      constructor
      · intro h
        cases h
        exact ⟨d, rfl, hadmits, rfl⟩
      · rintro ⟨_, ⟨⟩, -, rfl⟩
        rfl

theorem not_includes_iff {t : SqlType} {q : ℚ} :
    ¬t.Includes q ↔ ∃ low high, t.range? = some (low, high) ∧ (q < low ∨ high < q) := by
  unfold Includes
  push Not
  refine exists_congr fun low => exists_congr fun high => and_congr_right fun _ => ?_
  rw [← not_lt, ← not_le]
  tauto

theorem isGiven_of_decimal? {v : Value} {d : Decimal} (h : v.decimal? = some d) : v.IsGiven := by
  constructor
  · rintro rfl
    exact (nomatch h)
  · rintro sql rfl
    exact (nomatch h)

/-- A decimal with no more places than its type has is stored as it is. -/
theorem store_of_scale_le {p : Precision} {d : Decimal} (h : d.scale ≤ p.scale) :
    (numeric p).store d = d :=
  dif_pos h

/-- A value in the form that a type of numbers gives to its number stays as it is. -/
theorem coerce_eq_self {t : SqlType} {v : Value} {d : Decimal} (ht : t.range?.isSome = true)
    (hd : v.decimal? = some d) (hstore : t.store d = d) (hpack : t.pack d = v)
    (h : t.Includes d.value) : t.coerce v = .ok v := by
  have hnumber : t.number t.store v = .ok d :=
    number_eq_ok.2 ⟨d, hd, by rw [hstore]; exact admits_iff.2 h, hstore.symm⟩
  rw [coerce_eq_number ht (isGiven_of_decimal? hd), hnumber]
  exact congrArg Except.ok hpack

theorem isGiven_of_coerce_eq_error {t : SqlType} {v : Value} {r : Rejection}
    (h : t.coerce v = .error r) : v.IsGiven := by
  constructor
  · rintro rfl
    exact (nomatch h)
  · rintro sql rfl
    exact (nomatch h)

/-- A value is out of range exactly if what the type would store for its number is outside the
range. -/
theorem coerce_eq_outOfRange_iff {t : SqlType} {v : Value} {q : ℚ} :
    (∃ e : Decimal, e.value = q ∧ t.coerce v = .error (.outOfRange e)) ↔ t.Exceeds v q := by
  constructor
  · rintro ⟨e, rfl, h⟩
    cases ht : t.range? with
    | none => exact absurd h (coerce_ne_outOfRange ht v e)
    | some range =>
      have hsome : t.range?.isSome = true := by rw [ht]; rfl
      rw [coerce_eq_number hsome (isGiven_of_coerce_eq_error h), map_eq_error] at h
      obtain ⟨d, hd, hadmits, rfl⟩ := number_eq_outOfRange.1 h
      obtain ⟨low, high, hrange, hq⟩ := not_includes_iff.1 (mt admits_iff.2 hadmits)
      exact ⟨d, low, high, hd, nearest?_eq_some hsome d, hrange, hq⟩
  · rintro ⟨d, low, high, hd, hq, hrange, houtside⟩
    have hsome : t.range?.isSome = true := by rw [hrange]; rfl
    cases hq.symm.trans (nearest?_eq_some hsome d)
    have hincludes : ¬t.Includes (t.store d).value :=
      not_includes_iff.2 ⟨low, high, hrange, houtside⟩
    refine ⟨t.store d, rfl, ?_⟩
    rw [coerce_eq_number hsome (isGiven_of_decimal? hd), map_eq_error]
    exact number_eq_outOfRange.2 ⟨d, hd, mt admits_iff.1 hincludes, rfl⟩

/-! ### Conversion and validation -/

section Validation

variable {t : SqlType} {column : String} {notNull : Bool} {v w : Value}

theorem convert_eq_ok : t.convert v = .ok w ↔ t.coerce v = .ok w := mapError_eq_ok

/-- A value other than null is valid if it can be brought to the type, and else the reason is
reported. -/
theorem validate_of_ne_null (hv : v ≠ .null) :
    t.validate column notNull v = (t.coerce v).mapError fun
      | .outOfRange number => .outOfRange column t number
      | .unsupported => .invalidType column t v := by
  unfold validate
  cases v <;> first | rfl | exact absurd rfl hv

theorem validate_null_eq_ok :
    t.validate column notNull .null = .ok w ↔ w = .null ∧ ¬notNull = true := by
  cases notNull with
  | true => exact ⟨fun h => (nomatch h), fun h => absurd rfl h.2⟩
  | false =>
    constructor
    · intro h
      exact ⟨(Except.ok.inj h).symm, Bool.false_ne_true⟩
    · rintro ⟨rfl, -⟩
      rfl

theorem validate_eq_ok_iff :
    t.validate column notNull v = .ok w ↔ t.convert v = .ok w ∧ ¬(v = .null ∧ notNull = true) := by
  by_cases hv : v = .null
  · subst hv
    rw [validate_null_eq_ok, convert_eq_ok, coerce_null, Except.ok.injEq, eq_comm (a := w)]
    simp
  · rw [validate_of_ne_null hv, mapError_eq_ok, convert_eq_ok]
    simp [hv]

theorem validate_eq_notNull_iff :
    t.validate column notNull v = .error (.notNull column) ↔ v = .null ∧ notNull = true := by
  by_cases hv : v = .null
  · subst hv
    cases notNull with
    | true => exact ⟨fun _ => ⟨rfl, rfl⟩, fun _ => rfl⟩
    | false => exact ⟨fun h => (nomatch h), fun h => (nomatch h.2)⟩
  · rw [validate_of_ne_null hv]
    refine ⟨fun h => ?_, fun h => absurd h.1 hv⟩
    cases hcoerce : t.coerce v with
    | ok w => exact (nomatch hcoerce ▸ h)
    | error r => cases r <;> exact (nomatch hcoerce ▸ h)

theorem validate_eq_outOfRange_iff {e : Decimal} :
    t.validate column notNull v = .error (.outOfRange column t e) ↔
      t.coerce v = .error (.outOfRange e) := by
  by_cases hv : v = .null
  · subst hv
    cases notNull <;> exact ⟨fun h => (nomatch h), fun h => (nomatch h)⟩
  · rw [validate_of_ne_null hv]
    cases t.coerce v with
    | ok w => exact ⟨fun h => (nomatch h), fun h => (nomatch h)⟩
    | error r =>
      cases r with
      | unsupported => exact ⟨fun h => (nomatch h), fun h => (nomatch h)⟩
      | outOfRange d =>
        constructor
        · intro h
          cases h
          rfl
        · intro h
          cases h
          rfl

theorem validate_eq_invalidType_iff :
    t.validate column notNull v = .error (.invalidType column t v) ↔
      t.coerce v = .error .unsupported := by
  by_cases hv : v = .null
  · subst hv
    cases notNull <;> exact ⟨fun h => (nomatch h), fun h => (nomatch h)⟩
  · rw [validate_of_ne_null hv]
    cases t.coerce v with
    | ok w => exact ⟨fun h => (nomatch h), fun h => (nomatch h)⟩
    | error r =>
      cases r with
      | unsupported => exact ⟨fun _ => rfl, fun _ => rfl⟩
      | outOfRange d => exact ⟨fun h => (nomatch h), fun h => (nomatch h)⟩

/-- A value has no form in a type if it can not be brought to it and is not out of range. -/
theorem coerce_eq_unsupported_iff :
    t.coerce v = .error .unsupported ↔ (∀ w, t.convert v ≠ .ok w) ∧ ∀ q, ¬t.Exceeds v q := by
  simp only [ne_eq, convert_eq_ok, ← coerce_eq_outOfRange_iff]
  cases t.coerce v with
  | ok w => simp
  | error r => cases r <;> simp

end Validation

/-- A type converts a value soundly, and validation agrees with conversion.

* The result of a conversion is null exactly for null, and SQL text for the server is left as it is.
  For all other values it is in the form that the type stores.
* A value is valid exactly if it can be converted and is not a null in a column that takes none.
* Such a null is reported as one, a number that the type would store outside its range as out of
  range, and every other value that cannot be converted as invalid. -/
theorem conversion_sound (t : SqlType) (column : String) (notNull : Bool) (v : Value) :
    (∀ w, t.convert v = .ok w → (w = .null ↔ v = .null) ∧ (∀ sql, v = .random sql → w = v) ∧
      (v.IsGiven → t.Stores w)) ∧
    (∀ w, t.validate column notNull v = .ok w ↔
      t.convert v = .ok w ∧ ¬(v = .null ∧ notNull = true)) ∧
    (t.validate column notNull v = .error (.notNull column) ↔ v = .null ∧ notNull = true) ∧
    (∀ q : ℚ, (∃ e : Decimal, e.value = q ∧
      t.validate column notNull v = .error (.outOfRange column t e)) ↔ t.Exceeds v q) ∧
    (t.validate column notNull v = .error (.invalidType column t v) ↔
      (∀ w, t.convert v ≠ .ok w) ∧ ∀ q, ¬t.Exceeds v q) := by
  refine ⟨fun w hw => ?_, fun w => validate_eq_ok_iff, validate_eq_notNull_iff, fun q => ?_, ?_⟩
  · rw [convert_eq_ok] at hw
    refine ⟨⟨?_, ?_⟩, ?_, fun hv => stores_of_coerce hv hw⟩
    · rintro rfl
      exact coerce_eq_null.1 hw
    · rintro rfl
      exact (Except.ok.inj hw).symm
    · rintro sql rfl
      exact (Except.ok.inj hw).symm
  · simp only [validate_eq_outOfRange_iff]
    exact coerce_eq_outOfRange_iff
  · exact validate_eq_invalidType_iff.trans coerce_eq_unsupported_iff

end SqlType

/-! ### A price -/

namespace Price

/-- Six digits, two of them behind the point. -/
def type : SqlType := .numeric ⟨6, 2, by decide, by decide⟩

/-- Half a cent more than the greatest price. -/
def tooLarge : Value := .text " 9999.995"

/-- A price that is rounded to cents. -/
def rounded : Value := .numeric (.ofParts true 1235 2 (by decide) (by decide))

/-- A price is rounded before it is stored, a half going away from zero, and before it is compared
with the bounds: half a cent is too much at their end. -/
theorem conversion_sound_price :
    (type.convert (.text "-12.345") = .ok rounded ∧ Value.IsGiven (.text "-12.345") ∧
      type.Stores rounded) ∧
    type.Exceeds tooLarge 10000 ∧ ∃ e : Decimal, e.value = 10000 ∧
      type.validate "price" true tooLarge = .error (.outOfRange "price" type e) := by
  have hconvert : type.convert (.text "-12.345") = .ok rounded := by decide +kernel
  have hgiven : Value.IsGiven (.text "-12.345") := ⟨by decide, fun _ h => (nomatch h)⟩
  have hexceeds : type.Exceeds tooLarge 10000 := by
    refine ⟨.ofParts false 9999995 3 (by decide) (by decide), -9999.99, 9999.99, by decide +kernel,
      ?_, ?_, .inr (by norm_num)⟩
    · norm_num [type, SqlType.nearest?, nearestAway, Decimal.value, Decimal.signed, Decimal.ofParts]
    · norm_num [type, SqlType.range?]
  exact ⟨⟨hconvert, hgiven,
      ((SqlType.conversion_sound type "price" true _).1 _ hconvert).2.2 hgiven⟩,
    hexceeds, ((SqlType.conversion_sound type "price" true tooLarge).2.2.2.1 10000).2 hexceeds⟩

end Price

end TypedTable
