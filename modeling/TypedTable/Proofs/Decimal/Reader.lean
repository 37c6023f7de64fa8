import Mathlib.Order.Bounds.Basic
import TypedTable.Decimal.Reader
import TypedTable.Proofs.Digits
import TypedTable.Proofs.Number
/-!
# Reading digits into a decimal

A decimal has room for a mantissa below `Decimal.limit` and for `Decimal.maxScale` places. Of a run
of digits it keeps as many places as it has room for (`Decimal.Fits`), and the number is rounded to
them, a half going up (`Decimal.Approximates`).

`Decimal.readFrom_whole` and `Decimal.readFrom_fraction` say so of the digits in front of the point
and behind it. Where the first digit behind those that are kept makes the mantissa too large by its
carry, one more place is given up (`Decimal.approximates_carry`).
-/

namespace TypedTable

open Text

namespace Decimal

/-! ### Digits that are kept -/

/-- Whether the number `m / 10 ^ f` is one of a decimal after it is rounded to `k` of its places. -/
def Fits (m f k : ℕ) : Prop := k ≤ maxScale ∧ k ≤ f ∧ quotient m (f - k) < limit

/-- Whether a decimal is the number `m / 10 ^ f`, with a sign, rounded to as many places as there is
room for. -/
structure Approximates (d : Decimal) (negative : Bool) (m f : ℕ) : Prop where
  greatest : IsGreatest {k | Fits m f k} d.scale
  mantissa_eq : d.mantissa = quotient m (f - d.scale)
  negative_eq : d.mantissa ≠ 0 → d.negative = negative

theorem quotient_eq_ite (m k : ℕ) : quotient m k =
    if 10 ^ k ≤ 2 * (m % 10 ^ k) then m / 10 ^ k + 1 else m / 10 ^ k := rfl

theorem div_le_quotient (m k : ℕ) : m / 10 ^ k ≤ quotient m k := by
  rw [quotient_eq_ite]
  split <;> omega

theorem quotient_le_div (m k : ℕ) : quotient m k ≤ m / 10 ^ k + 1 := by
  rw [quotient_eq_ite]
  split <;> omega

theorem quotient_zero (m : ℕ) : quotient m 0 = m := by
  simp [quotient, Nat.mod_one]

/-- With fewer places there is more room. -/
theorem fits_zero {m f k : ℕ} (h : Fits m f k) : Fits m f 0 := by
  obtain ⟨-, hkf, hlt⟩ := h
  refine ⟨Nat.zero_le _, Nat.zero_le _, ?_⟩
  rw [Nat.sub_zero]
  rcases Nat.eq_zero_or_pos k with rfl | hk
  · rwa [Nat.sub_zero] at hlt
  · have hpow : 10 ^ (f - k) * 10 ≤ 10 ^ f := by
      rw [← Nat.pow_succ]
      exact Nat.pow_le_pow_right (by decide) (by omega)
    have hdiv : m / 10 ^ f ≤ m / 10 ^ (f - k) / 10 := by
      rw [Nat.div_div_eq_div_mul]
      exact Nat.div_le_div_left hpow (by positivity)
    have hfront := div_le_quotient m (f - k)
    have hback := quotient_le_div m f
    have := limit_eq
    omega

/-- The first digit that is dropped decides how a run is rounded. -/
theorem quotient_value_cons {c : Char} {cs : List Char} (hc : c.isDigit = true)
    (hcs : AllDigits cs) (n : ℕ) :
    quotient (Nat.ofDigitChars 10 (c :: cs) n) (cs.length + 1) =
      if c.toNat - '0'.toNat < 5 then n else n + 1 := by
  have hlt := value_lt hcs
  have hall := allDigits_cons.2 ⟨hc, hcs⟩
  have hpos : 0 < 10 ^ (cs.length + 1) := by positivity
  have hdiv : Nat.ofDigitChars 10 (c :: cs) n / 10 ^ (cs.length + 1) = n := value_from_div hall n
  have hmod : Nat.ofDigitChars 10 (c :: cs) n % 10 ^ (cs.length + 1) =
      (c.toNat - '0'.toNat) * 10 ^ cs.length + Nat.ofDigitChars 10 cs 0 := by
    have hback : Nat.ofDigitChars 10 (c :: cs) 0 =
        (c.toNat - '0'.toNat) * 10 ^ cs.length + Nat.ofDigitChars 10 cs 0 := by
      rw [Nat.ofDigitChars_cons, value_from, Nat.mul_zero, Nat.zero_add]
    rw [value_from, hback, List.length_cons, Nat.mul_add_mod_of_lt]
    rw [← hback]
    exact value_lt hall
  rw [quotient_eq_ite, hdiv, hmod, Nat.pow_succ]
  generalize c.toNat - '0'.toNat = d at *
  generalize 10 ^ cs.length = u at *
  by_cases hd : d < 5
  · have hle : d * u ≤ 4 * u := Nat.mul_le_mul_right _ (by omega)
    rw [if_pos hd, if_neg (by omega)]
  · have hle : 5 * u ≤ d * u := Nat.mul_le_mul_right _ (by omega)
    rw [if_neg hd, if_pos (by omega)]

/-! ### Reading a run of digits -/

section Reading

variable {negative : Bool} {p : Prefix} {c : Char} {cs : List Char}

/-- A decimal from the digits of the greatest number of places that there is room for. -/
theorem approximates_ofParts {m f k : ℕ} {hm : quotient m (f - k) < limit} {hs : k ≤ maxScale}
    (h : IsGreatest {k | Fits m f k} k) :
    (ofParts negative (quotient m (f - k)) k hm hs).Approximates negative m f where
  greatest := h
  mantissa_eq := rfl
  negative_eq hne := by
    have hne : (quotient m (f - k) != 0) = true := bne_iff_ne.2 hne
    show (negative && _) = negative
    rw [hne, Bool.and_true]

/-- The first digit for which there is no room ends the places. -/
theorem le_scale_of_fits (hcs : AllDigits cs)
    (hfull : p.scale = maxScale ∨ limit ≤ p.mantissa * 10 + (c.toNat - '0'.toNat)) {k : ℕ}
    (hk : Fits (Nat.ofDigitChars 10 (c :: cs) p.mantissa) (p.scale + (cs.length + 1)) k) :
    k ≤ p.scale := by
  obtain ⟨hmax, hkf, hlt⟩ := hk
  by_contra hgt
  rcases hfull with hfull | hfull
  · omega
  · have hcut : Nat.ofDigitChars 10 (c :: cs) p.mantissa / 10 ^ cs.length =
        10 * p.mantissa + (c.toNat - '0'.toNat) := by
      rw [Nat.ofDigitChars_cons, value_from_div hcs]
    have hpow : 10 ^ (p.scale + (cs.length + 1) - k) ≤ 10 ^ cs.length :=
      Nat.pow_le_pow_right (by decide) (by omega)
    have hmono := Nat.div_le_div_left (a := Nat.ofDigitChars 10 (c :: cs) p.mantissa) hpow
      (Nat.pow_pos (by decide))
    have := div_le_quotient (Nat.ofDigitChars 10 (c :: cs) p.mantissa)
      (p.scale + (cs.length + 1) - k)
    omega

/-- If the digits in front of the last `j` are a five at their end, they are rounded up to give it
up. -/
theorem quotient_succ_of_five {m j n : ℕ} (hn : m / 10 ^ j = n) (hfive : n % 10 = 5) :
    quotient m (j + 1) = (n + 5) / 10 := by
  have hmod : m % 10 ^ (j + 1) = m % 10 ^ j + 10 ^ j * 5 := by
    rw [Nat.pow_succ, Nat.mod_mul, hn, hfive]
  have hdiv : m / 10 ^ (j + 1) = n / 10 := by
    rw [Nat.pow_succ, ← Nat.div_div_eq_div_mul, hn]
  rw [quotient_eq_ite, hmod, hdiv, Nat.pow_succ, if_pos (by omega)]
  omega

/-- Only the first of the digits behind a number decides how it is rounded. -/
theorem roundRest_digits (hc : c.isDigit = true) (hcs : AllDigits cs) :
    p.roundRest negative (c :: cs) = p.roundBy negative (c.toNat - '0'.toNat) := by
  have hall := allDigits_cons.2 ⟨hc, hcs⟩
  have hfilter : (c :: cs).filter (· != '_') = c :: cs := by
    refine List.filter_eq_self.2 fun d hd => ?_
    by_contra hne
    rw [Bool.not_eq_true, bne_eq_false_iff_eq] at hne
    exact absurd (hall d hd) (by rw [hne]; decide)
  have hmap : ∀ {ds : List Char}, AllDigits ds →
      ds.mapM digit? = some (ds.map fun d => d.toNat - '0'.toNat) := by
    intro ds hds
    induction ds with
    | nil => rfl
    | cons d ds ih =>
      obtain ⟨hd, hds⟩ := allDigits_cons.1 hds
      rw [List.mapM_cons, digit?_of_isDigit hd, ih hds]
      rfl
  rw [Prefix.roundRest, hfilter, hmap hall]
  rfl

/-- If the carry has no room, the last place is given up. It is a five, so the number is rounded up
in front of it. -/
theorem approximates_carry {m f : ℕ} (hdiv : m / 10 ^ (f - p.scale) = p.mantissa)
    (hquotient : quotient m (f - p.scale) = p.mantissa + 1) (hcarry : ¬p.mantissa + 1 < limit)
    (hf : p.scale ≤ f) (hscale : p.scale ≠ 0) (hupper : ∀ k, Fits m f k → k ≤ p.scale)
    {hm : (p.mantissa + 5) / 10 < limit} {hs : p.scale - 1 ≤ maxScale} :
    (ofParts negative ((p.mantissa + 5) / 10) (p.scale - 1) hm hs).Approximates negative m f := by
  have hlimit : p.mantissa + 1 = limit := by
    have := p.mantissa_lt
    omega
  have hfive : p.mantissa % 10 = 5 := by
    have := limit_eq
    omega
  have hless : quotient m (f - (p.scale - 1)) = (p.mantissa + 5) / 10 := by
    rw [← quotient_succ_of_five hdiv hfive]
    congr 1
    omega
  simp only [← hless] at hm ⊢
  refine approximates_ofParts ⟨⟨hs, by omega, hm⟩, fun k hk => ?_⟩
  have hle := hupper k hk
  have hne : k ≠ p.scale := by
    rintro rfl
    have := hk.2.2
    omega
  omega

/-- A number whose next digit does not fit is rounded to the places that it has, or to one place
less if the carry has no room. -/
theorem roundBy_spec (hc : c.isDigit = true) (hcs : AllDigits cs)
    (hfull : p.scale = maxScale ∨ limit ≤ p.mantissa * 10 + (c.toNat - '0'.toNat)) {m f : ℕ}
    (hm : m = Nat.ofDigitChars 10 (c :: cs) p.mantissa) (hf : f = p.scale + (cs.length + 1)) :
    (∀ d, p.roundBy negative (c.toNat - '0'.toNat) = some d → d.Approximates negative m f) ∧
      (p.roundBy negative (c.toNat - '0'.toNat) = none → ¬Fits m f 0) := by
  have hquotient := quotient_value_cons hc hcs p.mantissa
  have hupper : ∀ k, Fits m f k → k ≤ p.scale := fun k hk =>
    le_scale_of_fits hcs hfull (hm ▸ hf ▸ hk)
  have hlength : f - p.scale = cs.length + 1 := by omega
  rw [← hm, ← hlength] at hquotient
  -- Rounded to the places that are there, the number is the next one or the one after it.
  have hkept : ∀ {n : ℕ} (hlt : n < limit), quotient m (f - p.scale) = n →
      (ofParts negative n p.scale hlt p.scale_le).Approximates negative m f := by
    rintro _ hlt rfl
    exact approximates_ofParts ⟨⟨p.scale_le, by omega, hlt⟩, fun k hk => hupper k hk⟩
  unfold Prefix.roundBy
  split
  · next hlow =>
    rw [if_pos hlow] at hquotient
    refine ⟨?_, fun h => absurd h (Option.some_ne_none _)⟩
    rintro _ ⟨⟩
    exact hkept _ hquotient
  · next hhigh =>
    rw [if_neg hhigh] at hquotient
    split
    · next hlt =>
      refine ⟨?_, fun h => absurd h (Option.some_ne_none _)⟩
      rintro _ ⟨⟩
      exact hkept _ hquotient
    · next hcarry =>
      split
      · next hzero =>
        refine ⟨fun d h => absurd h (Option.some_ne_none d).symm, fun _ hfits => ?_⟩
        have := hfits.2.2
        rw [hzero] at hquotient
        omega
      · next hscale =>
        have hdiv : m / 10 ^ (f - p.scale) = p.mantissa := by
          rw [hm, hlength]
          exact value_from_div (allDigits_cons.2 ⟨hc, hcs⟩) p.mantissa
        refine ⟨?_, fun h => absurd h (Option.some_ne_none _)⟩
        rintro _ ⟨⟩
        exact approximates_carry hdiv hquotient hcarry (by omega) hscale hupper

/-- At the end of the digits the number is complete. -/
theorem finish_spec (hdigits : p.digits = true) :
    ∃ d, p.finish negative = some d ∧ d.Approximates negative p.mantissa p.scale := by
  have hquotient : quotient p.mantissa (p.scale - p.scale) = p.mantissa := by
    rw [Nat.sub_self, quotient_zero]
  refine ⟨_, if_pos hdigits, ?_⟩
  have happroximates := @approximates_ofParts negative p.mantissa p.scale p.scale
    (hquotient.symm ▸ p.mantissa_lt) p.scale_le
    ⟨⟨p.scale_le, le_rfl, hquotient.symm ▸ p.mantissa_lt⟩, fun k hk => hk.2.1⟩
  simpa only [hquotient] using happroximates

/-- Digits behind the point are taken while there is room for them. -/
theorem readFrom_fraction (hpoint : p.point = true) (hdigits : p.digits = true ∨ cs ≠ [])
    (hcs : AllDigits cs) {m f : ℕ} (hm : m = Nat.ofDigitChars 10 cs p.mantissa)
    (hf : f = p.scale + cs.length) :
    (∀ d, readFrom negative p cs = some d → d.Approximates negative m f) ∧
      (readFrom negative p cs = none → ¬Fits m f 0) := by
  induction cs generalizing p with
  | nil =>
    obtain rfl : m = p.mantissa := hm
    obtain rfl : f = p.scale := hf
    obtain ⟨d, hd, happroximates⟩ :=
      @finish_spec negative p (hdigits.resolve_right fun h => h rfl)
    rw [readFrom, hd]
    refine ⟨?_, fun h => (nomatch h)⟩
    rintro _ ⟨⟩
    exact happroximates
  | cons c cs ih =>
    obtain ⟨hc, hcs⟩ := allDigits_cons.1 hcs
    rw [readFrom]
    split
    · rw [digit?_of_isDigit hc]
      dsimp only
      split
      · next hlt =>
        refine ih hpoint (.inl rfl) hcs ?_ ?_
        · rw [hm, Nat.ofDigitChars_cons, Nat.mul_comm]
        · show f = p.scale + 1 + cs.length
          rw [hf, List.length_cons]
          omega
      · next hge =>
        rw [roundRest_digits hc hcs]
        exact roundBy_spec hc hcs (.inr (Nat.not_lt.1 hge)) hm hf
    · next hfull =>
      rw [roundRest_digits hc hcs]
      refine roundBy_spec hc hcs (.inl ?_) hm hf
      have := p.scale_le
      omega

/-- The digits in front of the point are taken if there is room for all of them. -/
theorem readFrom_whole (hpoint : p.point = false) (hscale : p.scale < maxScale)
    (hcs : AllDigits cs) (rest : List Char) :
    readFrom negative p (cs ++ rest) =
      if h : Nat.ofDigitChars 10 cs p.mantissa < limit then
        readFrom negative ⟨_, p.scale, false, p.digits || !cs.isEmpty, h, p.scale_le⟩ rest
      else none := by
  induction cs generalizing p with
  | nil =>
    have hp : p = ⟨p.mantissa, p.scale, false, p.digits || !([] : List Char).isEmpty,
        p.mantissa_lt, p.scale_le⟩ := by
      obtain ⟨_, _, _, _, _, _⟩ := p
      obtain rfl := hpoint
      simp
    rw [dif_pos (show Nat.ofDigitChars 10 [] p.mantissa < limit from p.mantissa_lt)]
    exact congrArg (readFrom negative · rest) hp
  | cons c cs ih =>
    obtain ⟨hc, hcs⟩ := allDigits_cons.1 hcs
    rw [List.cons_append, readFrom, dif_pos hscale, digit?_of_isDigit hc]
    dsimp only
    have hnext : Nat.ofDigitChars 10 (c :: cs) p.mantissa =
        Nat.ofDigitChars 10 cs (p.mantissa * 10 + (c.toNat - '0'.toNat)) := by
      rw [Nat.ofDigitChars_cons, Nat.mul_comm]
    split
    · next hlt =>
      rw [ih ?_ ?_ hcs]
      · simp [hnext, hpoint]
      · exact hpoint
      · simpa [hpoint] using hscale
    · next hge =>
      have hle := le_value_from cs (p.mantissa * 10 + (c.toNat - '0'.toNat))
      rw [dif_neg (by omega), if_neg (by simp [hpoint])]

theorem readFrom_point (hpoint : p.point = false) (hscale : p.scale < maxScale) :
    readFrom negative p ('.' :: cs) = readFrom negative { p with point := true } cs := by
  have hdigit : digit? '.' = none := rfl
  rw [readFrom, dif_pos hscale, hdigit]
  exact if_pos (by rw [hpoint]; rfl)

end Reading

end Decimal

end TypedTable
