import TypedTable.Column
import TypedTable.Proofs.Result
/-!
# What types store

A value in the form that a type stores stays as it is under that type (`coerce_coerce`): a number
is rounded and checked against the bounds only once.

A value that the server evaluates stays as it is under every type, and no other value becomes one
(`coerce_eq_random`, `validate_eq_random`). So the SQL text that gets into a statement unbound is
always one that was given as such.
-/

namespace TypedTable

/-! ### Numbers of a scale -/

namespace Decimal

theorem truncate_ofInt64 (n : Int64) : (ofInt64 n).truncate = ofInt64 n := by
  simp [truncate, ofInt64, ofParts]

theorem signed_ofInt64 (n : Int64) : (ofInt64 n).signed = n.toInt := by
  have hneg : n < 0 ↔ n.toInt < 0 := Int64.lt_iff_toInt_lt
  show (if (decide (n < 0) && n.toInt.natAbs != 0) = true then -(n.toInt.natAbs : Int)
    else (n.toInt.natAbs : Int)) = n.toInt
  by_cases h : n < 0
  · have hlt := hneg.1 h
    have hne : (n.toInt.natAbs != 0) = true := bne_iff_ne.2 (by omega)
    rw [decide_eq_true h, hne, Bool.and_self, if_pos rfl]
    omega
  · have hle : ¬n.toInt < 0 := fun hlt => h (hneg.2 hlt)
    rw [decide_eq_false h, Bool.false_and, if_neg Bool.false_ne_true]
    omega

/-- Rounding once more changes nothing. -/
theorem round_round (d : Decimal) (places : Nat) :
    (d.round places).round places = d.round places := by
  conv_lhs => rw [round]
  exact dif_pos (d.round_scale_le places)

/-- Integers are compared by their signed mantissas. -/
theorem le_iff_of_scale {a b : Decimal} (ha : a.scale = 0) (hb : b.scale = 0) :
    a.le b = true ↔ a.signed ≤ b.signed := by
  simp [le, ha, hb]

end Decimal

namespace SqlType

/-! ### Values that the server evaluates -/

theorem supported_eq_ok {result : Option Value} {v : Value} :
    supported result = .ok v ↔ result = some v := by
  cases result with
  | none => exact ⟨fun h => (nomatch h), fun h => (nomatch h)⟩
  | some w =>
    show (Except.ok w : Except Rejection Value) = .ok v ↔ some w = some v
    simp only [Except.ok.injEq, Option.some.injEq]

/-- Only a value that the server evaluates is brought to one. -/
theorem coerce_eq_random {t : SqlType} {v : Value} {sql : String} :
    t.coerce v = .ok (.random sql) ↔ v = .random sql := by
  constructor
  · intro h
    unfold coerce at h
    split at h
    · exact (nomatch h)
    · cases h
      rfl
    · split at h <;>
        simp only [supported_eq_ok, map_eq_ok, Option.map_eq_some_iff, reduceCtorEq, and_false,
          exists_false, Except.ok.injEq] at h
  · rintro rfl
    exact coerce_random t sql

/-! ### Stored values -/

theorem number_eq_ok {t : SqlType} {store : Decimal → Decimal} {v : Value} {d : Decimal} :
    t.number store v = .ok d ↔
      ∃ x, v.decimal? = some x ∧ t.admits (store x) = true ∧ d = store x := by
  unfold number
  cases v.decimal? with
  | none => exact ⟨fun h => (nomatch h), fun ⟨_, h, _⟩ => (nomatch h)⟩
  | some x =>
    dsimp only
    split
    · next hadmits =>
      constructor
      · intro h
        cases h
        exact ⟨x, rfl, hadmits, rfl⟩
      · rintro ⟨_, ⟨⟩, -, rfl⟩
        rfl
    · next hadmits =>
      constructor
      · intro h
        exact (nomatch h)
      · rintro ⟨_, ⟨⟩, h, -⟩
        exact absurd h hadmits

/-- Whether a number is within the bounds depends on the number only. -/
theorem admits_congr (t : SqlType) {d e : Decimal} (hscale : d.scale = e.scale)
    (hsigned : d.signed = e.signed) : t.admits d = t.admits e := by
  simp only [admits, Decimal.le, hscale, hsigned]

/-- An integer within the bounds of a type lies between the numbers of these. -/
theorem signed_mem {t : SqlType} {low high : Int64}
    (hbounds : t.bounds? = some (.ofInt64 low, .ofInt64 high)) {d : Decimal} (hd : d.scale = 0)
    (h : t.admits d = true) : low.toInt ≤ d.signed ∧ d.signed ≤ high.toInt := by
  simp only [admits, hbounds, Bool.and_eq_true] at h
  rw [Decimal.le_iff_of_scale rfl hd, Decimal.le_iff_of_scale hd rfl, Decimal.signed_ofInt64,
    Decimal.signed_ofInt64] at h
  exact h

/-- The integer that stands for a number of a type is taken as that number. -/
theorem number_integer {t : SqlType} {v w : Value} {d : Decimal} {n : Int64}
    (h : t.number Decimal.truncate v = .ok d) (hw : w.decimal? = some (.ofInt64 n))
    (hn : n.toInt = d.signed) : t.number Decimal.truncate w = .ok (.ofInt64 n) := by
  obtain ⟨x, -, hadmits, rfl⟩ := number_eq_ok.1 h
  refine number_eq_ok.2 ⟨.ofInt64 n, hw, ?_, (Decimal.truncate_ofInt64 n).symm⟩
  rw [Decimal.truncate_ofInt64, ← hadmits]
  exact t.admits_congr rfl ((Decimal.signed_ofInt64 n).trans hn)

/-- Integers in the form of a type stay as they are, if the form has room for all numbers between
the bounds. -/
theorem map_number {t : SqlType} {low high : Int64} {pack : Decimal → Value}
    (hbounds : t.bounds? = some (.ofInt64 low, .ofInt64 high))
    (hpack : ∀ d : Decimal, low.toInt ≤ d.signed → d.signed ≤ high.toInt → ∃ n : Int64,
      n.toInt = d.signed ∧ (pack d).decimal? = some (.ofInt64 n) ∧ pack (.ofInt64 n) = pack d)
    {v w : Value} (h : (t.number Decimal.truncate v).map pack = .ok w) :
    (t.number Decimal.truncate w).map pack = .ok w := by
  obtain ⟨d, hd, rfl⟩ := map_eq_ok.1 h
  obtain ⟨x, -, hadmits, rfl⟩ := number_eq_ok.1 hd
  obtain ⟨hlow, hhigh⟩ := signed_mem hbounds (Decimal.truncate_scale x) hadmits
  obtain ⟨n, hn, hdecimal, heq⟩ := hpack _ hlow hhigh
  rw [number_integer hd hdecimal hn]
  exact congrArg Except.ok heq

theorem map_integer {t : SqlType} {low high : Int64}
    (hbounds : t.bounds? = some (.ofInt64 low, .ofInt64 high)) (hlow : -2147483648 ≤ low.toInt)
    (hhigh : high.toInt < 2147483648) {v w : Value}
    (h : (t.number Decimal.truncate v).map (fun d => .integer (Int32.ofInt d.signed)) = .ok w) :
    (t.number Decimal.truncate w).map (fun d => .integer (Int32.ofInt d.signed)) = .ok w := by
  refine map_number hbounds (fun d hleast hmost => ?_) h
  have hn : (Int32.ofInt d.signed).toInt64.toInt = d.signed := by
    rw [Int32.toInt_toInt64, Int32.toInt_ofInt_of_le (by omega) (by omega)]
  exact ⟨_, hn, rfl, by rw [Decimal.signed_ofInt64, hn]⟩

theorem map_smallInt {t : SqlType} {low high : Int64}
    (hbounds : t.bounds? = some (.ofInt64 low, .ofInt64 high)) (hlow : -32768 ≤ low.toInt)
    (hhigh : high.toInt < 32768) {v w : Value}
    (h : (t.number Decimal.truncate v).map (fun d => .smallInt (Int16.ofInt d.signed)) = .ok w) :
    (t.number Decimal.truncate w).map (fun d => .smallInt (Int16.ofInt d.signed)) = .ok w := by
  refine map_number hbounds (fun d hleast hmost => ?_) h
  have hn : (Int16.ofInt d.signed).toInt64.toInt = d.signed := by
    rw [Int16.toInt_toInt64, Int16.toInt_ofInt_of_le (by omega) (by omega)]
  exact ⟨_, hn, rfl, by rw [Decimal.signed_ofInt64, hn]⟩

/-- What a type stores is stored as it is. -/
theorem coerce_coerce {t : SqlType} {v w : Value} (h : t.coerce v = .ok w) : t.coerce w = .ok w := by
  unfold coerce at h
  split at h
  · cases h
    rfl
  · cases h
    rfl
  · split at h
    · obtain ⟨b, -, rfl⟩ := Option.map_eq_some_iff.1 (supported_eq_ok.1 h)
      rfl
    -- Integers: what is stored lies within the bounds of the type and is packed without loss.
    · have hw := @map_smallInt .smallInt (-32768) 32767 rfl (by decide) (by decide) _ _ h
      obtain ⟨d, -, rfl⟩ := map_eq_ok.1 h
      exact hw
    · have hw := @map_smallInt .smallSerial 0 32767 rfl (by decide) (by decide) _ _ h
      obtain ⟨d, -, rfl⟩ := map_eq_ok.1 h
      exact hw
    · have hw := @map_integer .integer (-2147483648) 2147483647 rfl (by decide) (by decide) _ _ h
      obtain ⟨d, -, rfl⟩ := map_eq_ok.1 h
      exact hw
    · have hw := @map_integer .serial 0 2147483647 rfl (by decide) (by decide) _ _ h
      obtain ⟨d, -, rfl⟩ := map_eq_ok.1 h
      exact hw
    · next p =>
      obtain ⟨d, hd, rfl⟩ := map_eq_ok.1 h
      obtain ⟨x, -, hadmits, rfl⟩ := number_eq_ok.1 hd
      -- A number that is rounded to the scale already is within the bounds as it is.
      have hround := Decimal.round_round x p.scale
      have hw : number (.numeric p) (Decimal.round · p.scale) (.numeric (x.round p.scale)) =
          .ok (x.round p.scale) :=
        number_eq_ok.2 ⟨_, rfl, by rw [hround]; exact hadmits, hround.symm⟩
      exact map_eq_ok.2 ⟨_, hw, rfl⟩
    · obtain ⟨d, -, rfl⟩ := Option.map_eq_some_iff.1 (supported_eq_ok.1 h)
      rfl
    · obtain ⟨d, -, rfl⟩ := Option.map_eq_some_iff.1 (supported_eq_ok.1 h)
      rfl
    · cases h
      rfl
    · cases h
      rfl

/-- No type stores floating-point numbers as such. -/
theorem coerce_ne_double {t : SqlType} {v : Value} {x : Double} : t.coerce v ≠ .ok (.double x) := by
  intro h
  unfold coerce at h
  split at h
  · exact (nomatch h)
  · exact (nomatch h)
  · split at h <;>
      simp only [supported_eq_ok, map_eq_ok, Option.map_eq_some_iff, reduceCtorEq, and_false,
        exists_false, Except.ok.injEq] at h

end SqlType

namespace Column

/-- A column stores what its type stores. -/
theorem convert_eq_ok {c : Column} {v w : Value} :
    c.convert v = .ok w ↔ c.type.coerce v = .ok w :=
  mapError_eq_ok

/-- A value that a column stores is stored as it is. -/
theorem convert_convert {c : Column} {v w : Value} (h : c.convert v = .ok w) :
    c.convert w = .ok w :=
  convert_eq_ok.2 (SqlType.coerce_coerce (convert_eq_ok.1 h))

/-- A value other than null that a column takes is the value that the column stores. -/
theorem convert_of_validate {c : Column} {v w : Value} (h : c.validate v = .ok w)
    (hw : w ≠ .null) : c.convert v = .ok w := by
  unfold validate SqlType.validate at h
  split at h
  · split at h <;> cases h
    exact absurd rfl hw
  · exact convert_eq_ok.2 (mapError_eq_ok.1 h)

/-- A default that the column stores is in the form in which it does. -/
theorem convert_default? {c : Column} {e : Evaluation} {v w : Value} (hv : c.default? e = some v)
    (hw : c.convert v = .ok w) : w = v := by
  obtain ⟨d, -, rfl⟩ := Option.map_eq_some_iff.1 hv
  dsimp only at hw ⊢
  rw [convert_eq_ok] at hw
  cases hu : c.type.coerce (d.resolve (e c.name)) with
  | error r =>
    rw [hu] at hw
    exact (nomatch hu.symm.trans hw)
  | ok x =>
    rw [hu] at hw
    exact Except.ok.inj (hw.symm.trans (SqlType.coerce_coerce hu))

/-- Only a value that the server evaluates is taken as one. -/
theorem validate_eq_random {c : Column} {v : Value} {sql : String} :
    c.validate v = .ok (.random sql) ↔ v = .random sql := by
  unfold validate SqlType.validate
  cases hv : v.isNull with
  | true =>
    obtain rfl : v = .null := by
      cases v <;> first | rfl | exact (nomatch hv)
    rw [if_pos rfl]
    split <;> simp
  | false =>
    rw [if_neg (by simp), mapError_eq_ok, SqlType.coerce_eq_random]

end Column

end TypedTable
