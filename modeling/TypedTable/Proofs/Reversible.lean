import TypedTable.Proofs.Calendar.Text
import TypedTable.Proofs.Numeral
import TypedTable.Proofs.Rounding
/-!
# Stored values are read back from their texts

The text of a number is that of a decimal, and is read as a decimal of the same number, perhaps with
another sign of a zero. A stored number is its own nearest number within the range, so it is stored
again (`SqlType.exists_convert_of_decimal?`). Booleans, dates and timestamps are read back as they
are.

`SqlType.convert_display` says so for all types but those of texts.
-/

namespace TypedTable

namespace SqlType

variable {t : SqlType} {v w w' : Value} {d e : Decimal}

/-! ### Numbers -/

/-- A stored number is written as the decimal that it stands for. -/
theorem exists_display_eq (hform : t.Form w) (ht : t.range?.isSome = true) :
    ∃ e, w.decimal? = some e ∧ w.number? = some e.value ∧ w.display = e.text := by
  cases hform with
  | numeric p d => exact ⟨d, rfl, rfl, rfl⟩
  | smallInt n | smallSerial n =>
    refine ⟨.ofInt64 n.toInt64, rfl, ?_, ?_⟩
    · rw [Decimal.value_ofInt64, Int16.toInt_toInt64]
      rfl
    · rw [Decimal.text_ofInt64, Int16.toInt_toInt64]
      rfl
  | integer n | serial n =>
    refine ⟨.ofInt64 n.toInt64, rfl, ?_, ?_⟩
    · rw [Decimal.value_ofInt64, Int32.toInt_toInt64]
      rfl
    · rw [Decimal.text_ofInt64, Int32.toInt_toInt64]
      rfl
  | _ => exact (nomatch ht)

/-- A number that is stored as it is lies on the grid of the type and within its range. -/
theorem nearest?_of_fixed (ht : t.range?.isSome = true) (he : w.decimal? = some e)
    (hw : w.number? = some e.value) (hfixed : t.convert w = .ok w) :
    t.nearest? e.value = some e.value ∧ t.Includes e.value := by
  have hvalidate : t.validate "" false w = .ok w :=
    validate_eq_ok_iff.2 ⟨hfixed, fun h => (nomatch h.2)⟩
  have hnearest := nearest?_eq_some ht e
  obtain ⟨htaken, hrefused⟩ := @validate_number t _ w e "" false ht he hnearest
  by_cases hincludes : t.Includes (t.store e).value
  · obtain ⟨u, hu, hnumber⟩ := htaken hincludes
    cases hvalidate.symm.trans hu
    have heq : e.value = (t.store e).value := Option.some.inj (hw.symm.trans hnumber)
    rw [← heq] at hnearest hincludes
    exact ⟨hnearest, hincludes⟩
  · obtain ⟨_, -, hu⟩ := hrefused hincludes
    exact (nomatch hvalidate.symm.trans hu)

/-- Whatever stands for a stored number is stored as that number. -/
theorem exists_convert_of_decimal? (ht : t.range?.isSome = true) (hw : t.Stores w)
    (hd : v.decimal? = some d) (hnumber : w.number? = some d.value) :
    ∃ w', t.convert v = .ok w' ∧ w'.number? = w.number? := by
  obtain ⟨e, he, hwe, -⟩ := exists_display_eq hw.form ht
  have heq : e.value = d.value := Option.some.inj (hwe.symm.trans hnumber)
  obtain ⟨hnearest, hincludes⟩ := nearest?_of_fixed ht he hwe hw.fixed
  rw [heq] at hnearest hincludes
  obtain ⟨w', hw', hx⟩ := (@validate_number t _ v d "" false ht hd hnearest).1 hincludes
  exact ⟨w', (validate_eq_ok_iff.1 hw').1, hx.trans hnumber.symm⟩

/-- Stored values with one number are the same, and but for decimals they are equal. -/
theorem same_of_number? (hform : t.Form w) (hform' : t.Form w') (hsome : w.number?.isSome = true)
    (h : w'.number? = w.number?) : w'.same w = true ∧ (w.numeric? = none → w' = w) := by
  have hself : ∀ {n m : ℤ}, some (n : ℚ) = some (m : ℚ) → n = m := fun h =>
    Int.cast_injective (Option.some.inj h)
  cases hform with
  | numeric p d =>
    cases hform' with
    | numeric _ d' => exact ⟨Decimal.same_iff_value.2 (Option.some.inj h), fun h => (nomatch h)⟩
  | smallInt n =>
    cases hform' with
    | smallInt n' =>
      obtain rfl : n' = n := Int16.toInt_inj.1 (hself h)
      exact ⟨decide_eq_true rfl, fun _ => rfl⟩
  | smallSerial n =>
    cases hform' with
    | smallSerial n' =>
      obtain rfl : n' = n := Int16.toInt_inj.1 (hself h)
      exact ⟨decide_eq_true rfl, fun _ => rfl⟩
  | integer n =>
    cases hform' with
    | integer n' =>
      obtain rfl : n' = n := Int32.toInt_inj.1 (hself h)
      exact ⟨decide_eq_true rfl, fun _ => rfl⟩
  | serial n =>
    cases hform' with
    | serial n' =>
      obtain rfl : n' = n := Int32.toInt_inj.1 (hself h)
      exact ⟨decide_eq_true rfl, fun _ => rfl⟩
  | _ => exact (nomatch hsome)

/-- A stored number is read back from its text. -/
theorem exists_convert_display (ht : t.range?.isSome = true) (hw : t.Stores w) :
    ∃ w', t.convert (.text w.display) = .ok w' ∧ w'.same w = true ∧
      (w.numeric? = none → w' = w) := by
  obtain ⟨e, -, hnumber, hdisplay⟩ := exists_display_eq hw.form ht
  obtain ⟨d, hd, hvalue⟩ := e.exists_ofText?_text
  have hdecimal : Value.decimal? (.text w.display) = some d := by
    rw [hdisplay]
    exact hd
  obtain ⟨w', hw', heq⟩ := exists_convert_of_decimal? ht hw hdecimal (hvalue ▸ hnumber)
  have hform' := (form_of_coerce (isGiven_of_decimal? hdecimal) (convert_eq_ok.1 hw')).1
  have hsome : w.number?.isSome = true := by
    rw [hnumber]
    rfl
  exact ⟨w', hw', same_of_number? hw.form hform' hsome heq⟩

/-! ### Other values -/

/-- A stored boolean, date or timestamp is read back from its text as it is. -/
theorem convert_display_of_range?_eq_none (ht : t.isText = false) (hrange : t.range? = none)
    (hform : t.Form w) (hminutes : ∀ x, w = .timestamp x → 60 ∣ x.offset) :
    t.convert (.text w.display) = .ok w ∧ w.same w = true := by
  cases hform with
  | boolean b => cases b <;> decide
  | date d =>
    refine ⟨convert_eq_ok.2 ?_, decide_eq_true rfl⟩
    show supported ((Date.ofText? d.text).map .date) = _
    rw [d.ofText?_text]
    rfl
  | timestampTz x =>
    refine ⟨convert_eq_ok.2 ?_, ?_⟩
    · show supported ((Timestamp.ofText? x.text).map .timestamp) = _
      rw [Timestamp.ofText?_text (hminutes x rfl)]
      rfl
    · show x.same x = true
      simp [Timestamp.same]
  | varChar | text => exact (nomatch ht)
  | _ => exact (nomatch hrange)

/-! ### All types -/

/-- Only a given value is stored as one. -/
theorem isGiven_of_coerce (hw : w.IsGiven) (h : t.coerce v = .ok w) : v.IsGiven := by
  refine ⟨?_, fun sql => ?_⟩
  · rintro rfl
    exact hw.1 (Except.ok.inj h).symm
  · rintro rfl
    exact hw.2 sql (Except.ok.inj h).symm

/-- Every given value has a text. -/
theorem convert_text (hw : w.IsGiven) : text.convert w = .ok (.text w.display) := by
  cases w with
  | null => exact absurd rfl hw.1
  | random sql => exact absurd rfl (hw.2 sql)
  | _ => rfl

/-- The text of a stored value is stored as the same value: as the same number if it is a decimal,
and as the value itself otherwise, so a timestamp keeps its offset. The offset has to be a whole
number of minutes, since no more of it is written. -/
theorem convert_display (ht : t.isText = false) (hw : w.IsGiven) (h : t.convert v = .ok w)
    (hminutes : ∀ x, w = .timestamp x → 60 ∣ x.offset) :
    text.convert w = .ok (.text w.display) ∧
      ∃ w', t.convert (.text w.display) = .ok w' ∧ w'.same w = true ∧
        (w.numeric? = none → w' = w) := by
  have hcoerce := convert_eq_ok.1 h
  have hstores := stores_of_coerce (isGiven_of_coerce hw hcoerce) hcoerce
  refine ⟨convert_text hw, ?_⟩
  cases hrange : t.range? with
  | some range => exact exists_convert_display (by rw [hrange]; rfl) hstores
  | none =>
    obtain ⟨hconvert, hsame⟩ :=
      convert_display_of_range?_eq_none ht hrange hstores.form hminutes
    exact ⟨w, hconvert, hsame, fun _ => rfl⟩

end SqlType

/-! ### A leap second -/

namespace Leap

/-- Half a second into a leap second, in a year of five digits, three and a half hours behind
UTC. -/
def instant : Timestamp where
  date := ⟨12345, 6, 30, by decide, by decide, by decide⟩
  clock := ⟨86399, 1500000000, by decide, by decide⟩
  offset := -12600
  offset_mem := by decide
  utc_mem := by decide

/-- The text of a leap second has the second 60, and is read as that leap second. -/
theorem convert_display_instant :
    SqlType.text.convert (.timestamp instant) = .ok (.text "+12345-06-30 23:59:60.500-03:30") ∧
      SqlType.timestampTz.convert (.text "+12345-06-30 23:59:60.500-03:30") =
        .ok (.timestamp instant) := by
  have hdisplay : (Value.timestamp instant).display = "+12345-06-30 23:59:60.500-03:30" := by
    decide
  obtain ⟨htext, w', hw', -, heq⟩ := SqlType.convert_display (t := .timestampTz)
    (v := .timestamp instant) (w := .timestamp instant) rfl
    ⟨fun h => (nomatch h), fun _ h => (nomatch h)⟩ rfl
    (by
      rintro _ ⟨⟩
      decide)
  rw [heq rfl] at hw'
  exact ⟨hdisplay ▸ htext, hdisplay ▸ hw'⟩

end Leap

end TypedTable
