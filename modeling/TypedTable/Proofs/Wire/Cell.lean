import TypedTable.Proofs.Calendar
import TypedTable.Proofs.Wire.Numeric
import TypedTable.Wire.Cell
/-!
# Values are known by their bytes

Values that are sent as the same bytes are equal, with two exceptions: zeros are sent alike whatever
their signs and scales, and timestamps whatever their offsets and what they have beyond whole
microseconds (`Value.Coincide`). `Value.encode_eq_iff` says that there are no others.
-/

namespace TypedTable

open Wire

/-- Whether two values are sent as the same bytes. -/
inductive Value.Coincide : Value → Value → Prop
  | refl (v : Value) : Coincide v v
  | zeros {d e : Decimal} (hd : d.isZero = true) (he : e.isZero = true) :
      Coincide (.numeric d) (.numeric e)
  | instants {x y : Timestamp} (h : x.micros epoch = y.micros epoch) :
      Coincide (.timestamp x) (.timestamp y)

namespace Wire

/-! ### The bytes of single kinds of values -/

theorem utf8_inj {s s' : String} (h : utf8 s = utf8 s') : s = s' := by
  have hdata : s.toUTF8.data = s'.toUTF8.data := Array.toList_inj.1 h
  exact String.toByteArray_inj.1 (ByteArray.ext hdata)

/-- The days from 1 January 2000 fit into four bytes. -/
theorem days_mem (d : Date) :
    -2147483648 ≤ d.dayNumber - epoch ∧ d.dayNumber - epoch < 2147483648 := by
  have hfirst : Date.firstDay = -95746130 := by decide
  have hlast : Date.lastDay = 95745398 := by decide
  have := d.dayNumber_mem
  unfold epoch
  omega

/-- The microseconds from 1 January 2000 fit into eight bytes. -/
theorem micros_mem (x : Timestamp) :
    -9223372036854775808 ≤ x.micros epoch ∧ x.micros epoch < 9223372036854775808 := by
  have hfirst : Date.firstDay = -95746130 := by decide
  have hlast : Date.lastDay = 95745398 := by decide
  have hutc := x.utc_mem
  have hnano := x.clock.nano_lt
  have hmicros : (x.micros epoch).natAbs =
      ((x.utcSecond - epoch * 86400) * 1000000000 + x.clock.nano).natAbs / 1000 :=
    Int.natAbs_tdiv ..
  unfold Timestamp.utcSecond epoch at hmicros
  unfold epoch
  omega

end Wire

/-! ### Values -/

namespace Value

/-- The kinds of values with the types that they are sent as and their bytes. -/
inductive SentAs (bytes : Bytes) : WireType → Value → Prop
  | bool {b : Bool} (h : bytes = [if b then 1 else 0]) : SentAs bytes .bool (.bool b)
  | smallInt {n : Int16} (h : bytes = signedBigEndian 2 n.toInt) : SentAs bytes .int2 (.smallInt n)
  | integer {n : Int32} (h : bytes = signedBigEndian 4 n.toInt) : SentAs bytes .int4 (.integer n)
  | bigInt {n : Int64} (h : bytes = signedBigEndian 8 n.toInt) : SentAs bytes .int8 (.bigInt n)
  | double {x : Double} (h : bytes = bigEndian 8 x.bits.toNat) : SentAs bytes .float8 (.double x)
  | numeric {d : Decimal} (h : bytes = (Groups.ofDecimal d).encode) :
      SentAs bytes .numeric (.numeric d)
  | text {t : WireType} {s : String} (ht : t.isText = true) (h : bytes = utf8 s) :
      SentAs bytes t (.text s)
  | date {d : Date} (h : bytes = signedBigEndian 4 (d.dayNumber - epoch)) :
      SentAs bytes .date (.date d)
  | timestamp {x : Timestamp} (h : bytes = signedBigEndian 8 (x.micros epoch)) :
      SentAs bytes .timestamptz (.timestamp x)

variable {t : WireType} {v w : Value} {bytes : Bytes}

theorem ite_eq_ok {p : Prop} [Decidable p] {fault : BindFault} {a b : Bytes}
    (h : (if p then .ok (some a) else .error fault : Except BindFault (Option Bytes)) =
      .ok (some b)) : p ∧ b = a := by
  split at h
  · next hp => exact ⟨hp, (Option.some.inj (Except.ok.inj h)).symm⟩
  · cases h

theorem sentAs_of_encode (h : v.encode t = .ok (some bytes)) : SentAs bytes t v := by
  cases v with
  | null => cases h
  | random sql => cases h
  | text s =>
    obtain ⟨ht, hbytes⟩ := ite_eq_ok h
    exact .text ht hbytes
  | bool b =>
    obtain ⟨rfl, hbytes⟩ := ite_eq_ok h
    exact .bool hbytes
  | smallInt n =>
    obtain ⟨rfl, hbytes⟩ := ite_eq_ok h
    exact .smallInt hbytes
  | integer n =>
    obtain ⟨rfl, hbytes⟩ := ite_eq_ok h
    exact .integer hbytes
  | bigInt n =>
    obtain ⟨rfl, hbytes⟩ := ite_eq_ok h
    exact .bigInt hbytes
  | double x =>
    obtain ⟨rfl, hbytes⟩ := ite_eq_ok h
    exact .double hbytes
  | numeric d =>
    obtain ⟨rfl, hbytes⟩ := ite_eq_ok h
    exact .numeric hbytes
  | date d =>
    obtain ⟨rfl, hbytes⟩ := ite_eq_ok h
    exact .date hbytes
  | timestamp x =>
    obtain ⟨rfl, hbytes⟩ := ite_eq_ok h
    exact .timestamp hbytes

/-- Values of one type with the same bytes coincide. -/
theorem coincide_of_sentAs (hv : SentAs bytes t v) (hw : SentAs bytes t w) : Coincide v w := by
  -- A type is that of one kind of values only, so both values are of one kind.
  cases hv with
  | @bool b h =>
    cases hw with
    | @bool b' h' =>
      have hinj : ∀ b b' : Bool,
          ([if b then 1 else 0] : Bytes) = [if b' then 1 else 0] → b = b' := by decide
      rw [hinj b b' (h.symm.trans h')]
      exact .refl _
    | text ht => cases ht
  | @smallInt n h =>
    cases hw with
    | @smallInt m h' =>
      rw [Int16.toInt_inj.1 (signedBigEndian_inj 32768 rfl ⟨n.le_toInt, n.toInt_lt⟩
        ⟨m.le_toInt, m.toInt_lt⟩ (h.symm.trans h'))]
      exact .refl _
    | text ht => cases ht
  | @integer n h =>
    cases hw with
    | @integer m h' =>
      rw [Int32.toInt_inj.1 (signedBigEndian_inj 2147483648 rfl ⟨n.le_toInt, n.toInt_lt⟩
        ⟨m.le_toInt, m.toInt_lt⟩ (h.symm.trans h'))]
      exact .refl _
    | text ht => cases ht
  | @bigInt n h =>
    cases hw with
    | @bigInt m h' =>
      rw [Int64.toInt_inj.1 (signedBigEndian_inj 9223372036854775808 rfl ⟨n.le_toInt, n.toInt_lt⟩
        ⟨m.le_toInt, m.toInt_lt⟩ (h.symm.trans h'))]
      exact .refl _
    | text ht => cases ht
  | @double x h =>
    cases hw with
    | @double y h' =>
      have hbits : x.bits = y.bits := UInt64.toNat_inj.1
        (@bigEndian_inj 8 _ _ x.bits.toNat_lt y.bits.toNat_lt (h.symm.trans h'))
      rw [show x = y from congrArg Double.mk hbits]
      exact .refl _
    | text ht => cases ht
  | numeric h =>
    cases hw with
    | numeric h' =>
      rcases Groups.encode_ofDecimal_eq_iff.1 (h.symm.trans h') with rfl | ⟨hd, he⟩
      · exact .refl _
      · exact .zeros hd he
    | text ht => cases ht
  | @date d h =>
    cases hw with
    | @date e h' =>
      have hdays := signedBigEndian_inj 2147483648 rfl (days_mem d) (days_mem e) (h.symm.trans h')
      rw [show d = e from Date.dayNumber_inj (by omega)]
      exact .refl _
    | text ht => cases ht
  | timestamp h =>
    cases hw with
    | timestamp h' =>
      exact .instants (signedBigEndian_inj 9223372036854775808 rfl (micros_mem _) (micros_mem _)
        (h.symm.trans h'))
    | text ht => cases ht
  | text ht h =>
    cases hw with
    | text _ h' =>
      rw [utf8_inj (h.symm.trans h')]
      exact .refl _
    | _ => cases ht

/-- Values that coincide have the same bytes. -/
theorem Coincide.encode_eq (h : Coincide v w) (t : WireType) : v.encode t = w.encode t := by
  cases h with
  | refl => rfl
  | zeros hd he => rw [encode, encode, Groups.encode_ofDecimal_eq_iff.2 (.inr ⟨hd, he⟩)]
  | instants h => rw [encode, encode, h]

/-- Two values are sent as the same bytes exactly if they coincide. -/
theorem encode_eq_iff (hv : v.encode t = .ok (some bytes)) :
    w.encode t = .ok (some bytes) ↔ Coincide v w :=
  ⟨fun hw => coincide_of_sentAs (sentAs_of_encode hv) (sentAs_of_encode hw),
    fun h => (h.encode_eq t).symm.trans hv⟩

end Value

end TypedTable
