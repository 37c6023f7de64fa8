import TypedTable.Proofs.Literals.Predicate
import TypedTable.Proofs.Numeral
import TypedTable.Proofs.Precision
/-!
# What a comparison with a number selects

A number that a column is compared with is bound as the column would store it. The bound number is
less than one step of the column's grid away from the given one, so no other stored number lies
between the two (`SqlType.lt_iff_of_nearest?`), and a stored number other than the bound one
compares with both in the same way.

`Comparator.truth_eq_iff_of_check` says so for all comparisons, and what becomes of the rows that
hold the bound number itself: they change sides if the comparison tells the two numbers apart there
(`Comparator.Separates`). `Rounded.truth_ne` is such a row.
-/

namespace TypedTable

/-! ### Comparing stored numbers -/

namespace Comparator

/-- The comparison of two numbers. A number is like no pattern. -/
def test : Comparator → ℚ → ℚ → Bool
  | eq, x, y => x = y
  | ne, x, y => x ≠ y
  | lt, x, y => x < y
  | gt, x, y => y < x
  | le, x, y => x ≤ y
  | ge, x, y => y ≤ x
  | like, _, _ => false

/-- The truth value of a comparison of a cell with a number. It is unknown for a cell without a
number. -/
def truth (o : Comparator) (cell : Value) (y : ℚ) : Option Bool := cell.number?.map (o.test · y)

/-- Whether a comparison of `b` with itself and one with `q` have different truth values. -/
def Separates (b q : ℚ) : Comparator → Prop
  | eq | ne => b ≠ q
  | lt | ge => b < q
  | gt | le => q < b
  | like => False

variable {o : Comparator} {x b q : ℚ}

/-- Numbers on the same side of a third one compare with it in the same way. -/
theorem test_congr (hlt : x < b ↔ x < q) (hgt : b < x ↔ q < x) : o.test x b = o.test x q := by
  have hle : x ≤ b ↔ x ≤ q := by rw [← not_lt, hgt, not_lt]
  have hge : b ≤ x ↔ q ≤ x := by rw [← not_lt, hlt, not_lt]
  have heq : x = b ↔ x = q := by rw [le_antisymm_iff, le_antisymm_iff, hle, hge]
  cases o <;> simp only [test, hlt, hgt, hle, hge, heq, ne_eq]

/-- A number compares with itself as with another one unless the comparison separates them. -/
theorem test_self_eq_iff : o.test b b = o.test b q ↔ ¬o.Separates b q := by
  cases o <;> simp [test, Separates]

end Comparator

/-! ### Stored numbers near a given one -/

namespace SqlType

variable {t : SqlType} {x b q : ℚ} {w : Value}

/-- The numbers that a type stores lie on its grid. -/
theorem exists_multiple_of_stores (hw : t.Stores w) (hx : w.number? = some x) :
    ∃ z : ℤ, x = z / 10 ^ t.places := by
  obtain ⟨hform, -, hfixed, -⟩ := hw
  cases hform with
  | numeric p d =>
    obtain rfl : d.value = x := Option.some.inj hx
    exact ⟨_, (value_of_convert (.numeric d) hfixed).1⟩
  | smallInt n | smallSerial n | integer n | serial n =>
    obtain rfl := Option.some.inj hx
    exact ⟨n.toInt, by simp [places]⟩
  | _ => cases hx

/-- Two numbers of a grid are at least one step apart. -/
theorem add_step_le_of_lt {places : ℕ} {z z' : ℤ} (h : (z / 10 ^ places : ℚ) < z' / 10 ^ places) :
    (z / 10 ^ places + 1 / 10 ^ places : ℚ) ≤ z' / 10 ^ places := by
  have hpos : (0 : ℚ) < 10 ^ places := by positivity
  rw [div_lt_div_iff_of_pos_right hpos, Int.cast_lt] at h
  rw [← add_div, div_le_div_iff_of_pos_right hpos]
  exact_mod_cast h

/-- No stored number lies between a number and the one that is stored for it. -/
theorem lt_iff_of_nearest? (hb : t.nearest? q = some b) (hx : ∃ z : ℤ, x = z / 10 ^ t.places)
    (hne : x ≠ b) : (x < b ↔ x < q) ∧ (b < x ↔ q < x) := by
  have hnear := abs_lt.1 (abs_sub_lt_of_nearest? hb)
  obtain ⟨z, rfl⟩ := hx
  obtain ⟨z', rfl⟩ := exists_multiple_of_nearest? hb
  rcases lt_or_gt_of_ne hne with hlt | hgt
  · have hstep := add_step_le_of_lt hlt
    exact ⟨iff_of_true hlt (by linarith), iff_of_false hlt.le.not_gt (by linarith)⟩
  · have hstep := add_step_le_of_lt hgt
    exact ⟨iff_of_false hgt.le.not_gt (by linarith), iff_of_true hgt (by linarith)⟩

/-- A row that holds another number than the bound one is selected as by the given number. A row
that holds the bound number is selected differently exactly if the comparison separates the two. -/
theorem truth_eq_iff (o : Comparator) (hb : t.nearest? q = some b)
    (hw : w = .null ∨ t.Stores w) :
    o.truth w b = o.truth w q ↔ ¬(w.number? = some b ∧ o.Separates b q) := by
  cases hx : w.number? with
  | none =>
    rw [Comparator.truth, Comparator.truth, hx]
    exact iff_of_true rfl fun h => (nomatch h.1)
  | some x =>
    have hstores : t.Stores w := hw.resolve_left (by
      rintro rfl
      exact (nomatch hx))
    rw [Comparator.truth, Comparator.truth, hx, Option.map_some, Option.map_some, Option.some.injEq,
      Option.some.injEq]
    by_cases hne : x = b
    · rw [hne, Comparator.test_self_eq_iff]
      simp
    · obtain ⟨hlt, hgt⟩ := lt_iff_of_nearest? hb (exists_multiple_of_stores hstores hx) hne
      exact iff_of_true (Comparator.test_congr hlt hgt) fun h => hne h.1

end SqlType

/-! ### Literals -/

/-- Whether a value is a number that is given exactly: an integer, a decimal, or the text of a
number of at most 28 digits. -/
inductive Value.IsLiteral : Value → ℚ → Prop
  | number {v : Value} {q : ℚ} (h : v.Denotes q) : IsLiteral v q
  | text {n : Numeral} {s : String} (hs : n.IsText s)
      (hdigits : (n.whole ++ n.fraction.getD []).length ≤ 28) : IsLiteral (.text s) n.value

/-- A number of at most 28 digits is within the digits of a decimal. -/
theorem Numeral.hasRoom_of_length {n : Numeral}
    (h : (n.whole ++ n.fraction.getD []).length ≤ 28) : n.HasRoom n.scale := by
  have hvalue : n.mantissa < 10 ^ (n.whole ++ n.fraction.getD []).length :=
    Text.value_lt (n.whole_digits.append n.fraction_digits)
  have hpow : 10 ^ (n.whole ++ n.fraction.getD []).length ≤ 10 ^ 28 :=
    Nat.pow_le_pow_right (by decide) h
  have hlimit : 10 ^ 28 ≤ Decimal.limit := by decide
  rw [List.length_append] at h
  exact hasRoom_scale ((Nat.le_add_left ..).trans h) (by omega)

/-- A literal stands for its number. -/
theorem Value.IsLiteral.exists_decimal? {v : Value} {q : ℚ} (h : v.IsLiteral q) :
    ∃ d, v.decimal? = some d ∧ d.value = q := by
  cases h with
  | number h => exact h.exists_decimal?
  | text hs hdigits => exact Numeral.exists_ofText? hs (Numeral.hasRoom_of_length hdigits)

namespace Comparator

variable {o : Comparator} {r : ColumnRef} {v : Value} {q : ℚ} {next next' : ℕ} {P : Predicate}
  {c : Column}

/-- A comparison with a literal that is accepted binds the number that the column would store. -/
theorem exists_bound_of_check (hc : r.resolve = .ok c) (ht : c.type.range?.isSome = true)
    (hv : v.IsLiteral q)
    (h : Condition.checkComparison o r (.value v) next = (.ok P, next')) :
    ∃ w b, P = .compare c o (.bound next w) ∧ c.type.Stores w ∧ w.number? = some b ∧
      c.type.nearest? q = some b := by
  obtain ⟨d, hd, rfl⟩ := hv.exists_decimal?
  obtain ⟨b, hb⟩ := SqlType.exists_nearest? ht d.value
  obtain ⟨htaken, hrefused⟩ :=
    @SqlType.validate_number c.type b v d c.ident.text c.notNull ht hd hb
  obtain ⟨c', operand, hc', rfl, hoperand⟩ := checkComparison_eq_ok h
  cases hc.symm.trans hc'
  obtain ⟨_, _, hcolumn, -⟩ | ⟨_, ⟨⟩, hoperand⟩ := hoperand
  · exact (nomatch hcolumn)
  · unfold Column.operand Column.validate at hoperand
    by_cases hincludes : c.type.Includes b
    · obtain ⟨w, hw, hnumber⟩ := htaken hincludes
      rw [hw] at hoperand
      -- A number is bound: it is no text for the server.
      have hbound : operand = .bound next w := by
        cases w <;> first
          | exact (Except.ok.inj (Prod.mk.inj hoperand).1).symm
          | exact (nomatch hnumber)
      have hconvert := SqlType.convert_eq_ok.1 (SqlType.validate_eq_ok_iff.1 hw).1
      exact ⟨w, b, by rw [hbound],
        SqlType.stores_of_coerce (SqlType.isGiven_of_decimal? hd) hconvert, hnumber, hb⟩
    · obtain ⟨e, -, he⟩ := hrefused hincludes
      rw [he] at hoperand
      exact (nomatch (Prod.mk.inj hoperand).1)

/-- A comparison of a column with an exact number binds the number that the column would store for
it, and selects the rows that the given number would select, but for those that hold the bound
number: these are selected differently exactly if the comparison separates the two numbers, that is

* `=` and `!=` whenever they differ,
* `<` and `>=` if the bound number is less than the given one,
* `>` and `<=` if it is greater.

So a number that the column can store selects what it says. -/
theorem truth_eq_iff_of_check (hc : r.resolve = .ok c) (ht : c.type.range?.isSome = true)
    (hv : v.IsLiteral q)
    (h : Condition.checkComparison o r (.value v) next = (.ok P, next')) :
    ∃ w b, P = .compare c o (.bound next w) ∧ c.type.Stores w ∧ w.number? = some b ∧
      c.type.nearest? q = some b ∧
      (∀ cell, (cell = .null ∨ c.type.Stores cell) →
        (o.truth cell b = o.truth cell q ↔ ¬(cell.number? = some b ∧ o.Separates b q))) ∧
      ((∃ cell, c.type.Stores cell ∧ cell.number? = some q) → b = q) := by
  obtain ⟨w, b, hP, hstored, hw, hb⟩ := exists_bound_of_check hc ht hv h
  refine ⟨w, b, hP, hstored, hw, hb, fun cell hcell => SqlType.truth_eq_iff o hb hcell, ?_⟩
  rintro ⟨cell, hstores, hq⟩
  by_contra hne
  have hiff := SqlType.lt_iff_of_nearest? hb (SqlType.exists_multiple_of_stores hstores hq)
    (Ne.symm hne)
  simp only [lt_self_iff_false, iff_false, not_lt] at hiff
  exact hne (le_antisymm hiff.1 hiff.2)

end Comparator

/-! ### A rounded price -/

namespace Rounded

/-- A column of prices. -/
def column : Column where
  name := ⟨⟨⟨"bakery", by decide, by decide⟩, ⟨"cakes", by decide, by decide⟩⟩,
    ⟨"price", by decide, by decide⟩⟩
  type := Price.type
  primaryKey := false
  unique := false
  notNull := false
  default := none
  foreignKey := none

def schema : Schema where
  table := column.table
  columns := [column]
  table_eq := by decide
  nodup := by decide

/-- A tenth of a cent less than ten. -/
def given : Numeral :=
  ⟨none, ['9'], some ['9', '9', '9'], by decide, by decide, by decide⟩

/-- The price that is bound in its place. -/
def bound : Value := .numeric ((Decimal.ofInt64 1000).lower 2)

theorem value_given : given.value = 9.999 := by
  have hmantissa : given.mantissa = 9999 := by decide
  have hscale : given.scale = 3 := rfl
  have hsign : given.negative = false := rfl
  norm_num [Numeral.value, Numeral.magnitude, hmantissa, hscale, hsign]

theorem number?_bound : bound.number? = some 10 := by
  have hsigned : ((Decimal.ofInt64 1000).lower 2).signed = 1000 := rfl
  have hscale : ((Decimal.ofInt64 1000).lower 2).scale = 2 := rfl
  norm_num [bound, Value.number?, Decimal.value, hsigned, hscale]

theorem isLiteral_given : Value.IsLiteral (.text "9.999") 9.999 :=
  value_given ▸
    .text ⟨[], [], fun _ h => (nomatch h), fun _ h => (nomatch h), by decide⟩ (by decide)

theorem check_given : Condition.checkComparison .gt ⟨schema, "price"⟩ (.value (.text "9.999")) 0 =
    (.ok (.compare column .gt (.bound 0 bound)), 1) := rfl

theorem stores_bound : column.type.Stores bound :=
  SqlType.stores_of_coerce (SqlType.isGiven_of_decimal? (v := bound) rfl)
    (by decide +kernel : Price.type.coerce bound = .ok bound)

/-- A price of ten is greater than `9.999`, but not than the price that is bound in its place. So
the comparison loses its row. -/
theorem truth_ne :
    Condition.checkComparison .gt ⟨schema, "price"⟩ (.value (.text "9.999")) 0 =
      (.ok (.compare column .gt (.bound 0 bound)), 1) ∧
    Value.IsLiteral (.text "9.999") 9.999 ∧ column.type.Stores bound ∧
    bound.number? = some 10 ∧
    Comparator.gt.truth bound 10 = some false ∧ Comparator.gt.truth bound 9.999 = some true := by
  refine ⟨check_given, isLiteral_given, stores_bound, number?_bound, ?_, ?_⟩ <;>
    norm_num [Comparator.truth, Comparator.test, number?_bound]

/-- What is greater than `9.999` but for a price of ten is what is greater than the bound price. -/
theorem truth_eq_iff_bound :
    Condition.checkComparison .gt ⟨schema, "price"⟩ (.value (.text "9.999")) 0 =
      (.ok (.compare column .gt (.bound 0 bound)), 1) ∧
    Value.IsLiteral (.text "9.999") 9.999 ∧
    ∀ cell, (cell = .null ∨ Price.type.Stores cell) →
      (Comparator.gt.truth cell 10 = Comparator.gt.truth cell 9.999 ↔ cell.number? ≠ some 10) := by
  obtain ⟨w, b, hP, -, hw, -, htruth, -⟩ := Comparator.truth_eq_iff_of_check
    (show ColumnRef.resolve ⟨schema, "price"⟩ = .ok column from rfl) rfl isLiteral_given check_given
  cases hP
  obtain rfl : 10 = b := Option.some.inj (number?_bound.symm.trans hw)
  have hseparates : Comparator.Separates 10 9.999 .gt := by norm_num [Comparator.Separates]
  refine ⟨check_given, isLiteral_given, fun cell hcell => (htruth cell hcell).trans ?_⟩
  simp [hseparates]

end Rounded

end TypedTable
