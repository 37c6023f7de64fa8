import Mathlib.Data.List.TakeWhile
import Mathlib.Data.Nat.Digits.Lemmas
import TypedTable.Proofs.Wire.Bytes
import TypedTable.Wire.Numeric
/-!
# Decimals are known by their bytes

The bytes of groups say what the groups are (`Groups.encode_inj`), and the groups of a decimal say
its digits: the weight of the first group tells how many groups of zeros are left out at the end
(`ofDecimal_inj`). So only zeros, which lose their sign and their scale, share their bytes with
other decimals (`encode_ofDecimal_eq_iff`).
-/

namespace TypedTable.Wire

/-! ### The groups of a number -/

theorem groupsOf_eq (n : Nat) : groupsOf n = (Nat.digits 10000 n).reverse := by
  induction n using Nat.strongRecOn with
  | ind n ih =>
    rw [groupsOf]
    split
    · next h => rw [h, Nat.digits_zero, List.reverse_nil]
    · next h =>
      rw [Nat.digits_def' (by decide) (Nat.pos_of_ne_zero h), List.reverse_cons,
        ih _ (Nat.div_lt_self (Nat.pos_of_ne_zero h) (by decide))]

theorem lt_of_mem_groupsOf {n digit : Nat} (h : digit ∈ groupsOf n) : digit < 10000 := by
  rw [groupsOf_eq, List.mem_reverse] at h
  exact Nat.digits_lt_base (by decide) h

theorem groupsOf_inj {n m : Nat} (h : groupsOf n = groupsOf m) : n = m := by
  rw [groupsOf_eq, groupsOf_eq, List.reverse_inj] at h
  exact Nat.digits_inj_iff.1 h

theorem length_groupsOf_le {n k : Nat} (h : n < 10000 ^ k) : (groupsOf n).length ≤ k := by
  rw [groupsOf_eq, List.length_reverse]
  exact (Nat.digits_length_le_iff (by decide) n).2 h

theorem groupsOf_ne_nil {n : Nat} (h : n ≠ 0) : groupsOf n ≠ [] := by
  rw [groupsOf_eq, Ne, List.reverse_eq_nil_iff]
  exact Nat.digits_ne_nil_iff_ne_zero.2 h

/-! ### Zeros at the end -/

theorem exists_dropTrailingZeros (l : List Nat) :
    ∃ zeros, l = dropTrailingZeros l ++ List.replicate zeros 0 := by
  have hzeros : l.reverse.takeWhile (· == 0) =
      List.replicate (l.reverse.takeWhile (· == 0)).length 0 :=
    List.eq_replicate_iff.2 ⟨rfl, fun n hn => by simpa using List.mem_takeWhile_imp hn⟩
  refine ⟨(l.reverse.takeWhile (· == 0)).length, ?_⟩
  calc l = (l.reverse.takeWhile (· == 0) ++ l.reverse.dropWhile (· == 0)).reverse := by
        rw [List.takeWhile_append_dropWhile, List.reverse_reverse]
    _ = dropTrailingZeros l ++ (l.reverse.takeWhile (· == 0)).reverse := List.reverse_append ..
    _ = _ := by rw [hzeros, List.reverse_replicate, List.length_replicate]

/-- Lists of one length that differ in the zeros at their ends are equal. -/
theorem eq_of_dropTrailingZeros_eq {l r : List Nat} (hlength : l.length = r.length)
    (h : dropTrailingZeros l = dropTrailingZeros r) : l = r := by
  obtain ⟨zeros, hl⟩ := exists_dropTrailingZeros l
  obtain ⟨zeros', hr⟩ := exists_dropTrailingZeros r
  have hcount : zeros = zeros' := by
    rw [hl, hr, h, List.length_append, List.length_append, List.length_replicate,
      List.length_replicate] at hlength
    omega
  rw [hl, hr, h, hcount]

theorem mem_of_mem_dropTrailingZeros {l : List Nat} {n : Nat} (h : n ∈ dropTrailingZeros l) :
    n ∈ l := by
  obtain ⟨zeros, hl⟩ := exists_dropTrailingZeros l
  rw [hl]
  exact List.mem_append_left _ h

theorem length_dropTrailingZeros_le (l : List Nat) : (dropTrailingZeros l).length ≤ l.length := by
  obtain ⟨zeros, hl⟩ := exists_dropTrailingZeros l
  have hlength := congrArg List.length hl
  rw [List.length_append] at hlength
  omega

/-! ### The bytes of groups -/

namespace Groups

/-- Whether the parts of groups fit into their bytes. -/
structure Fits (g : Groups) : Prop where
  count : g.digits.length < 65536
  weight : -32768 ≤ g.weight ∧ g.weight < 32768
  scale : g.scale < 65536
  digits : ∀ n ∈ g.digits, n < 65536

theorem sign_inj {a b : Bool}
    (h : (if a then negativeMark else 0) = if b then negativeMark else 0) : a = b := by
  revert a b
  decide

/-- Groups can be read off their bytes. -/
theorem encode_inj {g g' : Groups} (hg : g.Fits) (hg' : g'.Fits) (h : g.encode = g'.encode) :
    g = g' := by
  unfold encode at h
  obtain ⟨h, hdigits⟩ := List.append_inj h (by simp [signedBigEndian])
  obtain ⟨h, hscale⟩ := List.append_inj' h (by simp)
  obtain ⟨h, hsign⟩ := List.append_inj' h (by simp)
  obtain ⟨hcount, hweight⟩ := List.append_inj' h (by simp [signedBigEndian])
  have hcount := bigEndian_inj hg.count hg'.count hcount
  have hweight := signedBigEndian_inj 32768 rfl hg.weight hg'.weight hweight
  have hscale := bigEndian_inj hg.scale hg'.scale hscale
  have hdigits := @flatMap_bigEndian_inj 2 _ _ hcount hg.digits hg'.digits hdigits
  have hsign := sign_inj (bigEndian_inj (by split <;> decide) (by split <;> decide) hsign)
  obtain ⟨weight, negative, scale, digits⟩ := g
  obtain ⟨weight', negative', scale', digits'⟩ := g'
  obtain rfl : weight = weight' := hweight
  obtain rfl : scale = scale' := hscale
  obtain rfl : digits = digits' := hdigits
  obtain rfl : negative = negative' := hsign
  rfl

/-! ### The groups of a decimal -/

variable {d e : Decimal}

/-- The number of groups that a fraction takes. -/
def fractionGroups (d : Decimal) : Nat := (d.scale + 3) / 4

/-- The mantissa of a decimal whose fraction is filled up to whole groups. -/
def filled (d : Decimal) : Nat := d.mantissa * Nat.pow 10 (4 * fractionGroups d - d.scale)

/-- All groups of a decimal. -/
def allDigits (d : Decimal) : List Nat := groupsOf (filled d)

theorem ofDecimal_eq (hd : d.isZero = false) : ofDecimal d =
    { weight := (allDigits d).length - fractionGroups d - 1
      negative := d.negative
      scale := d.scale
      digits :=
        if 0 < (allDigits d).length - fractionGroups d then
          (allDigits d).take ((allDigits d).length - fractionGroups d) ++
            dropTrailingZeros ((allDigits d).drop ((allDigits d).length - fractionGroups d))
        else allDigits d } := by
  unfold ofDecimal
  rw [if_neg (by rw [hd]; decide)]
  rfl

theorem length_allDigits_le (d : Decimal) : (allDigits d).length ≤ 8 := by
  refine length_groupsOf_le ?_
  have hpow : Nat.pow 10 (4 * fractionGroups d - d.scale) ≤ Nat.pow 10 3 :=
    Nat.pow_le_pow_right (by decide) (by unfold fractionGroups; omega)
  have hm := d.mantissa_lt
  rw [Decimal.limit_eq] at hm
  have hfilled : filled d ≤ d.mantissa * Nat.pow 10 3 := Nat.mul_le_mul_left _ hpow
  have hthousand : Nat.pow 10 3 = 1000 := rfl
  rw [hthousand] at hfilled
  norm_num
  omega

theorem filled_ne_zero (hd : d.isZero = false) : filled d ≠ 0 := by
  have hm : d.mantissa ≠ 0 := by
    intro h
    rw [Decimal.isZero, h] at hd
    exact absurd hd (by decide)
  exact Nat.mul_ne_zero hm (Nat.pos_iff_ne_zero.1 (Nat.pow_pos (by decide)))

theorem length_digits_le (hd : d.isZero = false) :
    (ofDecimal d).digits.length ≤ (allDigits d).length := by
  rw [ofDecimal_eq hd]
  dsimp only
  split
  · have hdrop := length_dropTrailingZeros_le
      ((allDigits d).drop ((allDigits d).length - fractionGroups d))
    rw [List.length_drop] at hdrop
    rw [List.length_append, List.length_take]
    omega
  · exact Nat.le_refl _

theorem mem_allDigits_of_mem {n : Nat} (hd : d.isZero = false) (h : n ∈ (ofDecimal d).digits) :
    n ∈ allDigits d := by
  rw [ofDecimal_eq hd] at h
  dsimp only at h
  split at h
  · rcases List.mem_append.1 h with h | h
    · exact List.mem_of_mem_take h
    · exact List.mem_of_mem_drop (mem_of_mem_dropTrailingZeros h)
  · exact h

theorem fits_ofDecimal (d : Decimal) : (ofDecimal d).Fits := by
  cases hd : d.isZero with
  | true =>
    have hzero : ofDecimal d = ⟨0, false, 0, []⟩ := if_pos hd
    rw [hzero]
    exact ⟨by decide, by decide, by decide, by decide⟩
  | false =>
    have hlength := length_allDigits_le d
    have hscale : d.scale ≤ 28 := d.scale_le
    have hfraction : fractionGroups d ≤ 7 := by unfold fractionGroups; omega
    constructor
    · have := length_digits_le hd
      omega
    · rw [ofDecimal_eq hd]
      dsimp only
      omega
    · rw [ofDecimal_eq hd]
      dsimp only
      omega
    · intro n hn
      have := lt_of_mem_groupsOf (mem_allDigits_of_mem hd hn)
      omega

theorem digits_ne_nil (hd : d.isZero = false) : (ofDecimal d).digits ≠ [] := by
  have hall : allDigits d ≠ [] := groupsOf_ne_nil (filled_ne_zero hd)
  rw [ofDecimal_eq hd]
  dsimp only
  split
  · next hwhole =>
    refine List.append_ne_nil_of_left_ne_nil (fun h => ?_) _
    rcases List.take_eq_nil_iff.1 h with h | h
    · omega
    · exact hall h
  · exact hall

/-- Decimals other than zero can be read off their groups. -/
theorem ofDecimal_inj (hd : d.isZero = false) (he : e.isZero = false)
    (h : ofDecimal d = ofDecimal e) : d = e := by
  rw [ofDecimal_eq hd, ofDecimal_eq he, Groups.mk.injEq] at h
  obtain ⟨hweight, hnegative, hscale, hdigits⟩ := h
  have hfraction : fractionGroups d = fractionGroups e := by rw [fractionGroups, hscale]; rfl
  rw [hfraction] at hweight hdigits
  have hlength : (allDigits d).length = (allDigits e).length := by omega
  rw [hlength] at hdigits
  -- The groups that are left out at the end of a fraction are zeros.
  have hall : allDigits d = allDigits e := by
    split at hdigits
    · have htake := List.append_inj hdigits (by rw [List.length_take, List.length_take, hlength])
      rw [← List.take_append_drop ((allDigits e).length - fractionGroups e) (allDigits d), htake.1,
        eq_of_dropTrailingZeros_eq (by rw [List.length_drop, List.length_drop, hlength]) htake.2,
        List.take_append_drop]
    · exact hdigits
  have hfilled : filled d = filled e := groupsOf_inj hall
  obtain ⟨negative, mantissa, scale, hm, hs⟩ := d
  obtain ⟨negative', mantissa', scale', hm', hs'⟩ := e
  obtain rfl : negative = negative' := hnegative
  obtain rfl : scale = scale' := hscale
  obtain rfl : mantissa = mantissa' :=
    Nat.eq_of_mul_eq_mul_right (Nat.pow_pos (by decide)) hfilled
  rfl

/-- Two decimals have the same bytes if they are equal or both of them are zero. -/
theorem encode_ofDecimal_eq_iff :
    (ofDecimal d).encode = (ofDecimal e).encode ↔
      d = e ∨ d.isZero = true ∧ e.isZero = true := by
  have hzero (x : Decimal) (hx : x.isZero = true) : ofDecimal x = ⟨0, false, 0, []⟩ := if_pos hx
  constructor
  · intro h
    have h := encode_inj (fits_ofDecimal d) (fits_ofDecimal e) h
    cases hd : d.isZero <;> cases he : e.isZero
    · exact .inl (ofDecimal_inj hd he h)
    · exact absurd (by rw [h, hzero e he]) (digits_ne_nil hd)
    · exact absurd (by rw [← h, hzero d hd]) (digits_ne_nil he)
    · exact .inr ⟨rfl, rfl⟩
  · rintro (rfl | ⟨hd, he⟩)
    · rfl
    · rw [hzero d hd, hzero e he]

end Groups

end TypedTable.Wire
