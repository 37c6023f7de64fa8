import TypedTable.Proofs.Calendar.Day
import TypedTable.Proofs.Instance
import TypedTable.Proofs.Key
import TypedTable.Proofs.Reversible
import TypedTable.Proofs.Wire.Cell
import TypedTable.Proofs.Wire.Decimal
import TypedTable.Proofs.Wire.Reading
import TypedTable.Wire.Server
/-!
# Stored values come back from the wire

The bytes that a stored value is sent as are read as this value (`Value.ReadsBack`), but for two
things that bytes do not keep: a zero loses its sign and its fraction digits, and a timestamp its
offset. Neither matters to the number or to the point in time, and the column that stored the value
takes what was read.

`Instance.restores` puts this together from what a column takes to the slot of a row that is made of
the answer, for a value and for null. Only what a timestamp has beyond whole microseconds is lost,
and so is a leap second.
-/

namespace TypedTable

open Wire

namespace Value

/-- Whether nothing of a timestamp is lost on the wire: it is in whole microseconds, and not in a
leap second. -/
def InMicros (w : Value) : Prop :=
  ∀ x, w = .timestamp x → 1000 ∣ x.clock.nano ∧ x.clock.nano < 1000000000

/-- Whether a value is sent as bytes that are read as another one. -/
inductive ReadsBack : Value → Value → Prop
  | self (w : Value) : ReadsBack w w
  | zero {d : Decimal} (h : d.isZero = true) : ReadsBack (.numeric d) (.numeric .zero)
  | instant {x y : Timestamp} (h : y.same x = true) : ReadsBack (.timestamp x) (.timestamp y)

end Value

/-! ### Reading the bytes -/

namespace SqlType

variable {t : SqlType} {w cell : Value}

theorem sized_signedBigEndian (width : Nat) (n : Int) (v : Option Value) :
    sized width (signedBigEndian width n) v = v :=
  if_pos (length_bigEndian _ _)

/-- The bytes of a stored value are read as this value. -/
theorem exists_decode? (hform : t.Form w) (hmicros : w.InMicros) :
    ∃ bytes cell, w.encode t.wireType = .ok (some bytes) ∧
      t.wireType.decode? bytes = some cell ∧ w.ReadsBack cell := by
  cases hform with
  | boolean b =>
    refine ⟨_, .bool b, rfl, ?_, .self _⟩
    cases b <;> decide
  | smallInt n | smallSerial n =>
    refine ⟨_, .smallInt n, rfl, ?_, .self _⟩
    have hread := @signed_signedBigEndian 2 32768 rfl n.toInt ⟨n.le_toInt, n.toInt_lt⟩
    simp only [wireType, WireType.decode?, hread, sized_signedBigEndian, Int16.ofInt_toInt]
  | integer n | serial n =>
    refine ⟨_, .integer n, rfl, ?_, .self _⟩
    have hread := @signed_signedBigEndian 4 2147483648 rfl n.toInt ⟨n.le_toInt, n.toInt_lt⟩
    simp only [wireType, WireType.decode?, hread, sized_signedBigEndian, Int32.ofInt_toInt]
  | numeric p d =>
    have hgroups := Groups.decode?_encode (Groups.fits_ofDecimal d)
    cases hd : d.isZero with
    | true =>
      refine ⟨_, .numeric .zero, rfl, ?_, .zero hd⟩
      simp only [wireType, WireType.decode?, hgroups, Option.bind_some,
        Groups.decimal?_of_isZero hd, Option.map_some]
    | false =>
      refine ⟨_, .numeric d, rfl, ?_, .self _⟩
      simp only [wireType, WireType.decode?, hgroups, Option.bind_some,
        Groups.decimal?_ofDecimal hd, Option.map_some]
  | date d =>
    refine ⟨_, .date d, rfl, ?_, .self _⟩
    have hread := @signed_signedBigEndian 4 2147483648 rfl _ (days_mem d)
    have hday : epoch + (d.dayNumber - epoch) = d.dayNumber := by omega
    simp only [wireType, WireType.decode?, hread, sized_signedBigEndian, hday,
      Date.ofDayNumber?_dayNumber, Option.map_some]
  | timestampTz x =>
    obtain ⟨hwhole, hleap⟩ := hmicros x rfl
    obtain ⟨y, hy, -, hsame⟩ := Timestamp.exists_ofMicros? epoch hwhole hleap
    refine ⟨_, .timestamp y, rfl, ?_, .instant hsame⟩
    have hread := @signed_signedBigEndian 8 9223372036854775808 rfl _ (micros_mem x)
    simp only [wireType, WireType.decode?, hread, sized_signedBigEndian, hy, Option.map_some]
  | varChar l s | text s =>
    refine ⟨_, .text s, rfl, ?_, .self _⟩
    simp only [wireType, WireType.decode?, ofUtf8?_utf8, Option.map_some]

/-- The type that stored a value takes what its bytes are read as, for the same value. -/
theorem exists_convert_of_readsBack (hw : t.Stores w) (h : w.ReadsBack cell) :
    ∃ w', t.convert cell = .ok w' ∧ w'.same w = true := by
  cases h with
  | self =>
    refine ⟨w, hw.fixed, Value.same_self fun x hx => ?_⟩
    rw [hx] at hw
    cases hw.form
  | @zero d hd =>
    have ht : t.range?.isSome = true := by
      cases hw.form
      rfl
    have hvalue : d.value = Decimal.zero.value := by
      have hmantissa : d.mantissa = 0 := beq_iff_eq.1 hd
      simp [Decimal.value, Decimal.signed, Decimal.zero, hmantissa]
    have hnumber : (Value.numeric d).number? = some Decimal.zero.value := congrArg some hvalue
    obtain ⟨w', hw', heq⟩ := exists_convert_of_decimal? (v := .numeric .zero) ht hw rfl hnumber
    have hgiven : (Value.numeric .zero).IsGiven := isGiven_of_decimal? rfl
    have hform' := (form_of_coerce hgiven (convert_eq_ok.1 hw')).1
    exact ⟨w', hw', (same_of_number? hw.form hform' rfl heq).1⟩
  | @instant x y hsame =>
    refine ⟨.timestamp y, ?_, hsame⟩
    cases hw.form
    rfl

/-- Cells of the type of a column can be read. -/
theorem read_wireType (name : String) (index : Nat) {bytes : Bytes}
    (h : t.wireType.decode? bytes = some cell) :
    (ResultColumn.mk name t.wireType).read index (some bytes) = .ok cell := by
  cases t <;> simp only [ResultColumn.read, wireType] at h ⊢ <;> rw [h]

theorem read_none (t : SqlType) (name : String) (index : Nat) :
    (ResultColumn.mk name t.wireType).read index none = .ok .null := by
  cases t <;> rfl

end SqlType

/-! ### Rows of the answer -/

namespace Instance

variable {s : Schema} {k : Fin s.columns.length}

/-- A row of one cell holds what the column makes of the cell. -/
theorem exists_ofRecord_singleton {v w : Value} (h : (s.get k).convert v = .ok w) :
    ∃ i, ofRecord s [k] [v] = .ok i ∧ i.slot k = some w := by
  refine ⟨(new s).put k w, ?_, ?_⟩
  · show (putCell s (new s) (k, v) >>= fun i => pure i) = _
    rw [bind_pure]
    exact map_eq_ok.2 ⟨w, h, rfl⟩
  · rw [slot_put _ _ _ k.isLt, if_pos rfl]

/-- A value that a column takes is sent as bytes that come back as the same value: as the same
number if it is a decimal, as the same point in time if it is a timestamp, and as the value itself
otherwise. A null comes back as a null. -/
theorem restores (s : Schema) (k : Fin s.columns.length) (name : String) (index : Nat) :
    (∀ v w, w.IsGiven → (s.get k).validate v = .ok w → w.InMicros →
      ∃ bytes cell i w', w.encode (s.get k).type.wireType = .ok (some bytes) ∧
        (ResultColumn.mk name (s.get k).type.wireType).read index (some bytes) = .ok cell ∧
        ofRecord s [k] [cell] = .ok i ∧ i.slot k = some w' ∧ w'.same w = true) ∧
    (Value.null.encode (s.get k).type.wireType = .ok none ∧
      ∃ cell i, (ResultColumn.mk name (s.get k).type.wireType).read index none = .ok cell ∧
        ofRecord s [k] [cell] = .ok i ∧ i.slot k = some .null) := by
  constructor
  · intro v w hgiven hvalidate hmicros
    have hcoerce := SqlType.convert_eq_ok.1 (SqlType.validate_eq_ok_iff.1 hvalidate).1
    have hstores := SqlType.stores_of_coerce (SqlType.isGiven_of_coerce hgiven hcoerce) hcoerce
    obtain ⟨bytes, cell, hencode, hdecode, hreads⟩ := SqlType.exists_decode? hstores.form hmicros
    obtain ⟨w', hconvert, hsame⟩ := SqlType.exists_convert_of_readsBack hstores hreads
    obtain ⟨i, hi, hslot⟩ := exists_ofRecord_singleton hconvert
    exact ⟨bytes, cell, i, w', hencode, SqlType.read_wireType name index hdecode, hi, hslot, hsame⟩
  · obtain ⟨i, hi, hslot⟩ := @exists_ofRecord_singleton s k .null .null rfl
    exact ⟨rfl, .null, i, SqlType.read_none _ name index, hi, hslot⟩

end Instance

/-! ### A number without room for another digit -/

namespace Weighed

/-- The table of the column. -/
def table : TableName := ⟨⟨"lab", by decide, by decide⟩, ⟨"masses", by decide, by decide⟩⟩

def grams : Column where
  name := ⟨table, ⟨"grams", by decide, by decide⟩⟩
  type := .numeric ⟨28, 27, by decide, by decide⟩
  primaryKey := false
  unique := false
  notNull := true
  default := none
  foreignKey := none

def schema : Schema where
  table := table
  columns := [grams]
  table_eq := by decide
  nodup := by decide

/-- The number 9.000000000000000000000000001. -/
def mass : Decimal := ⟨false, 9000000000000000000000000001, 27, by decide, by decide⟩

/-- The fraction digits are sent in groups of four, and the zero that fills up the last group would
be one digit too many for a decimal. -/
theorem restores_mass : ∃ bytes cell i w',
    (Value.numeric mass).encode grams.type.wireType = .ok (some bytes) ∧
      (ResultColumn.mk "grams" grams.type.wireType).read 0 (some bytes) = .ok cell ∧
      Instance.ofRecord schema [⟨0, by decide⟩] [cell] = .ok i ∧ i.slot 0 = some w' ∧
      w'.same (.numeric mass) = true := by
  have hgiven : (Value.numeric mass).IsGiven := SqlType.isGiven_of_decimal? rfl
  have hvalidate : grams.validate (.numeric mass) = .ok (.numeric mass) := by decide +kernel
  have hmicros : (Value.numeric mass).InMicros := fun _ h => (nomatch h)
  exact (Instance.restores schema ⟨0, by decide⟩ "grams" 0).1 _ _ hgiven hvalidate hmicros

end Weighed

end TypedTable
