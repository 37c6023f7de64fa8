import Mathlib.Tactic.Ring
import TypedTable.Proofs.Wire.Numeric
/-!
# Decimals are read back from their groups

A reader takes the groups one after the other, and what it has read then is the number of the groups
so far (`continued`). The decimal of this number is exact as long as there is room for it without
the zeros at its end (`exists_addFraction?`). For the groups of a decimal there is, since they are
its own digits and at most three zeros (`hasRoom_filled`); so a decimal other than zero is read back
with its sign and its scale, and a zero as a plain zero (`Groups.decimal?_ofDecimal`).
-/

namespace TypedTable.Wire

/-! ### The number of groups -/

/-- The number that groups continue. -/
def continued (n : Nat) (groups : List Nat) : Nat :=
  groups.foldl (fun n digit => n * 10000 + digit) n

variable {l : List Nat}

theorem continued_append (n : Nat) (l r : List Nat) :
    continued n (l ++ r) = continued (continued n l) r :=
  List.foldl_append

theorem continued_eq (n : Nat) (l : List Nat) :
    continued n l = n * 10000 ^ l.length + continued 0 l := by
  induction l generalizing n with
  | nil => simp [continued]
  | cons digit l ih =>
    have hn : continued n (digit :: l) = continued (n * 10000 + digit) l := rfl
    have hzero : continued 0 (digit :: l) = continued (0 * 10000 + digit) l := rfl
    rw [hn, hzero, ih, ih (0 * 10000 + digit), List.length_cons]
    ring

theorem continued_lt (hl : ∀ digit ∈ l, digit < 10000) : continued 0 l < 10000 ^ l.length := by
  induction l with
  | nil => decide
  | cons digit l ih =>
    obtain ⟨hdigit, hl⟩ := List.forall_mem_cons.1 hl
    have hrest := ih hl
    have hcons : continued 0 (digit :: l) = digit * 10000 ^ l.length + continued 0 l := by
      show continued (0 * 10000 + digit) l = _
      rw [continued_eq, Nat.zero_mul, Nat.zero_add]
    have hmul : (digit + 1) * 10000 ^ l.length ≤ 10000 * 10000 ^ l.length :=
      Nat.mul_le_mul_right _ hdigit
    rw [hcons, List.length_cons, pow_succ]
    rw [Nat.add_mul, Nat.one_mul] at hmul
    omega

/-- The groups of a number are those of this number. -/
theorem continued_groupsOf (n : Nat) : continued 0 (groupsOf n) = n := by
  induction n using Nat.strongRecOn with
  | ind n ih =>
    rw [groupsOf]
    split
    · next hzero =>
      rw [hzero]
      rfl
    · next hpos =>
      rw [continued_append, ih _ (Nat.div_lt_self (Nat.pos_of_ne_zero hpos) (by decide))]
      show n / 10000 * 10000 + n % 10000 = n
      omega

/-- The first groups of a number are those of the number without its last groups. -/
theorem continued_take_groupsOf (n m : Nat) :
    continued 0 ((groupsOf n).take m) = n / 10000 ^ ((groupsOf n).length - m) := by
  have hlt : continued 0 ((groupsOf n).drop m) < 10000 ^ ((groupsOf n).length - m) := by
    have hdigits := @continued_lt ((groupsOf n).drop m) fun digit hdigit =>
      lt_of_mem_groupsOf (List.mem_of_mem_drop hdigit)
    rwa [List.length_drop] at hdigits
  have hsplit : n = continued 0 ((groupsOf n).take m) * 10000 ^ ((groupsOf n).length - m) +
      continued 0 ((groupsOf n).drop m) := by
    conv_lhs => rw [← continued_groupsOf n, ← List.take_append_drop m (groupsOf n)]
    rw [continued_append, continued_eq, List.length_drop]
  refine (Nat.div_eq_of_lt_le ?_ ?_).symm
  · omega
  · rw [Nat.add_mul, Nat.one_mul]
    omega

theorem continued_replicate (n zeros : Nat) :
    continued n (List.replicate zeros 0) = n * 10000 ^ zeros := by
  have hzero : continued 0 (List.replicate zeros 0) = 0 := by
    induction zeros with
    | zero => rfl
    | succ zeros ih => exact ih
  rw [continued_eq, hzero, List.length_replicate, Nat.add_zero]

/-! ### Numbers at a place -/

/-- Whether a decimal is `n` units of a place behind the point, shown with no more digits. -/
structure IsUnits (d : Decimal) (n place : Nat) : Prop where
  negative : d.negative = false
  scale_le : d.scale ≤ place
  units : d.mantissa * 10 ^ (place - d.scale) = n

/-- Whether there is room for `n` units of a place, if zeros at the end are left out. -/
def HasRoom (n place : Nat) : Prop :=
  ∃ zeros ≤ place, 10 ^ zeros ∣ n ∧ n / 10 ^ zeros < Decimal.limit

/-- A quotient that comes out even needs no rounding. -/
theorem quotientEven_of_dvd {n k : Nat} (h : 10 ^ k ∣ n) :
    Decimal.quotientEven n k = n / 10 ^ k := by
  have hpos : 0 < 10 ^ k := Nat.pow_pos (by decide)
  have hmod : n % 10 ^ k = 0 := Nat.mod_eq_zero_of_dvd h
  show (if 10 ^ k < 2 * (n % 10 ^ k) ∨ 10 ^ k = 2 * (n % 10 ^ k) ∧ n / 10 ^ k % 2 = 1
    then n / 10 ^ k + 1 else n / 10 ^ k) = _
  rw [hmod]
  exact if_neg (by omega)

/-- A number for which there is room is kept exactly. -/
theorem exists_fit? {n zeros dropped scale : Nat} (hscale : scale ≤ Decimal.maxScale)
    (hzeros : zeros ≤ scale) (hdvd : 10 ^ (dropped + zeros) ∣ n)
    (hlt : n / 10 ^ (dropped + zeros) < Decimal.limit) :
    ∃ d, Decimal.fit? n dropped scale hscale = some d ∧ d.negative = false ∧ d.scale ≤ scale ∧
      d.mantissa * 10 ^ (dropped + (scale - d.scale)) = n := by
  have hdropped : 10 ^ dropped ∣ n := (Nat.pow_dvd_pow 10 (Nat.le_add_right _ _)).trans hdvd
  have heven := quotientEven_of_dvd hdropped
  induction scale generalizing dropped zeros with
  | zero =>
    obtain rfl := Nat.le_zero.1 hzeros
    have hroom : Decimal.quotientEven n dropped < Decimal.limit := heven ▸ hlt
    refine ⟨_, dif_pos hroom, rfl, Nat.le_refl 0, ?_⟩
    show Decimal.quotientEven n dropped * 10 ^ (dropped + 0) = n
    rw [heven, Nat.add_zero, Nat.div_mul_cancel hdropped]
  | succ scale ih =>
    by_cases hroom : Decimal.quotientEven n dropped < Decimal.limit
    · refine ⟨_, dif_pos hroom, rfl, Nat.le_refl _, ?_⟩
      show Decimal.quotientEven n dropped * 10 ^ (dropped + (scale + 1 - (scale + 1))) = n
      rw [heven, Nat.sub_self, Nat.add_zero, Nat.div_mul_cancel hdropped]
    · -- There is no room for all digits, so the last one is a zero and is left out.
      obtain _ | zeros := zeros
      · exact absurd (heven ▸ hlt) hroom
      · have hexponent : dropped + (zeros + 1) = dropped + 1 + zeros := by omega
        rw [hexponent] at hdvd hlt
        have hnext : 10 ^ (dropped + 1) ∣ n :=
          (Nat.pow_dvd_pow 10 (Nat.le_add_right _ _)).trans hdvd
        obtain ⟨d, hd, hnegative, hle, hunits⟩ := ih (Nat.le_of_succ_le hscale)
          (Nat.le_of_succ_le_succ hzeros) hdvd hlt hnext (quotientEven_of_dvd hnext)
        refine ⟨d, (dif_neg hroom).trans hd, hnegative, Nat.le_succ_of_le hle, ?_⟩
        rw [← hunits]
        congr 2
        omega

/-- A group is added exactly if there is room for the sum. -/
theorem exists_addAt? {d : Decimal} {n place digit : Nat} (hd : IsUnits d n place)
    (hplace : place + 4 ≤ Decimal.maxScale) (hroom : HasRoom (n * 10000 + digit) (place + 4)) :
    ∃ e, d.addAt? digit (place + 4) hplace = some e ∧
      IsUnits e (n * 10000 + digit) (place + 4) := by
  have hsum : d.mantissa * Nat.pow 10 (place + 4 - d.scale) + digit = n * 10000 + digit := by
    have hexponent : place + 4 - d.scale = place - d.scale + 4 := by
      have := hd.scale_le
      omega
    rw [← hd.units, hexponent]
    show d.mantissa * 10 ^ (place - d.scale + 4) + digit = _
    rw [pow_add]
    ring
  obtain ⟨zeros, hzeros, hdvd, hlt⟩ := hroom
  rw [← Nat.zero_add zeros] at hdvd hlt
  obtain ⟨e, he, hnegative, hle, hunits⟩ := exists_fit? hplace hzeros hdvd hlt
  refine ⟨e, ?_, hnegative, hle, ?_⟩
  · rw [Decimal.addAt?, hsum, he]
  · rw [← hunits, Nat.zero_add]

/-- The groups of a fraction are added exactly if there is room for every sum. -/
theorem exists_addFraction? {d : Decimal} {n place : Nat} (hd : IsUnits d n place)
    (hplace : place + 4 * l.length ≤ Decimal.maxScale)
    (hroom : ∀ m, m ≤ l.length → HasRoom (continued n (l.take m)) (place + 4 * m)) :
    ∃ e, addFraction? d (place + 4) l = some e ∧
      IsUnits e (continued n l) (place + 4 * l.length) := by
  induction l generalizing d n place with
  | nil => exact ⟨d, rfl, hd⟩
  | cons digit l ih =>
    rw [List.length_cons] at hplace hroom ⊢
    have hfirst : place + 4 ≤ Decimal.maxScale := by omega
    obtain ⟨e, he, hunits⟩ := exists_addAt? hd hfirst (hroom 1 (by omega))
    have hlength : place + 4 + 4 * l.length = place + 4 * (l.length + 1) := by omega
    obtain ⟨r, hr, hrunits⟩ := ih hunits (hlength ▸ hplace) fun m hm => by
      have hnext : place + 4 * (m + 1) = place + 4 + 4 * m := by omega
      rw [← hnext]
      exact hroom (m + 1) (by omega)
    rw [hlength] at hrunits
    refine ⟨r, ?_, hrunits⟩
    rw [addFraction?, dif_pos hfirst, he]
    exact hr

/-! ### Showing a number with its own digits -/

theorem pad_eq {d : Decimal} {n : Nat} (hm : d.mantissa * 10 ^ n < Decimal.limit)
    (hs : d.scale + n ≤ Decimal.maxScale) :
    d.pad n = ⟨d.negative, d.mantissa * 10 ^ n, d.scale + n, hm, hs⟩ := by
  induction n generalizing d with
  | zero =>
    obtain ⟨negative, mantissa, scale, _, _⟩ := d
    simp [Decimal.pad]
  | succ n ih =>
    have hpow : d.mantissa * 10 ^ (n + 1) = d.mantissa * 10 * 10 ^ n := by ring
    have hle : d.mantissa * 10 ≤ d.mantissa * 10 * 10 ^ n :=
      Nat.le_mul_of_pos_right _ (Nat.pow_pos (by decide))
    have hfits : d.mantissa * 10 < Decimal.limit ∧ d.scale < Decimal.maxScale := by omega
    rw [Decimal.pad, dif_pos hfits, ih (by rw [← hpow]; exact hm) (by dsimp only; omega)]
    simp only [Decimal.mk.injEq, true_and]
    exact ⟨hpow.symm, by omega⟩

/-- A number that is equal to one with another scale is shown with this scale as that one. -/
theorem rescale_eq {d e : Decimal} (hne : d.mantissa ≠ 0) (hnegative : e.negative = d.negative)
    (h : e.mantissa * 10 ^ d.scale = d.mantissa * 10 ^ e.scale) :
    e.rescale d.scale d.scale_le = d := by
  have hpow (k : Nat) : 0 < 10 ^ k := Nat.pow_pos (by decide)
  have hzero : e.mantissa ≠ 0 := by
    intro hzero
    rw [hzero, Nat.zero_mul] at h
    exact Nat.mul_ne_zero hne (hpow e.scale).ne' h.symm
  rw [Decimal.rescale, if_neg hzero]
  obtain ⟨negative, mantissa, scale, hm, hs⟩ := d
  dsimp only at hne hnegative h ⊢
  split
  · next hlt =>
    have hmantissa : e.mantissa = mantissa * 10 ^ (e.scale - scale) := by
      refine Nat.eq_of_mul_eq_mul_right (hpow scale) ?_
      rw [h, Nat.mul_assoc, ← pow_add, Nat.sub_add_cancel hlt.le]
    have hquotient : Decimal.quotient e.mantissa (e.scale - scale) = mantissa := by
      have hmod : mantissa * 10 ^ (e.scale - scale) % 10 ^ (e.scale - scale) = 0 :=
        Nat.mul_mod_left _ _
      rw [hmantissa]
      show (if 10 ^ (e.scale - scale) ≤ 2 * (mantissa * 10 ^ (e.scale - scale) %
        10 ^ (e.scale - scale)) then _ else mantissa * 10 ^ (e.scale - scale) /
        10 ^ (e.scale - scale)) = mantissa
      rw [hmod, if_neg (Nat.not_le_of_gt (hpow _)), Nat.mul_div_cancel _ (hpow _)]
    simp only [hnegative, hquotient]
  · next hge =>
    have hmantissa : mantissa = e.mantissa * 10 ^ (scale - e.scale) := by
      refine Nat.eq_of_mul_eq_mul_right (hpow e.scale) ?_
      rw [← h, Nat.mul_assoc, ← pow_add, Nat.sub_add_cancel (Nat.le_of_not_lt hge)]
    have hsum : e.scale + (scale - e.scale) = scale := by omega
    rw [pad_eq (hmantissa ▸ hm) (by rw [hsum]; exact hs)]
    simp only [Decimal.mk.injEq]
    exact ⟨hnegative, hmantissa.symm, hsum⟩

/-! ### The groups of a decimal -/

namespace Groups

variable {d : Decimal}

theorem scale_le_fractionGroups (d : Decimal) :
    d.scale ≤ 4 * fractionGroups d ∧ 4 * fractionGroups d < d.scale + 4 := by
  unfold fractionGroups
  omega

theorem fractionGroups_le (d : Decimal) : 4 * fractionGroups d ≤ Decimal.maxScale := by
  have hscale : d.scale ≤ 28 := d.scale_le
  show 4 * fractionGroups d ≤ 28
  unfold fractionGroups
  omega

/-- There is room for the digits of a decimal, taken up to any group of the fraction. -/
theorem hasRoom_filled (d : Decimal) {m : Nat} (hm : m ≤ fractionGroups d) :
    HasRoom (filled d / 10000 ^ (fractionGroups d - m)) (4 * m) := by
  obtain ⟨hle, hlt⟩ := scale_le_fractionGroups d
  have hpow (k : Nat) : 0 < 10 ^ k := Nat.pow_pos (by decide)
  have hfilled : filled d = d.mantissa * 10 ^ (4 * fractionGroups d - d.scale) := rfl
  rw [hfilled]
  rcases hm.eq_or_lt with rfl | hm
  · -- All groups: what was filled up is left out again.
    rw [Nat.sub_self, pow_zero, Nat.div_one]
    refine ⟨4 * fractionGroups d - d.scale, Nat.sub_le _ _, Dvd.intro_left _ rfl, ?_⟩
    rw [Nat.mul_div_cancel _ (hpow _)]
    exact d.mantissa_lt
  · refine ⟨0, Nat.zero_le _, one_dvd _, ?_⟩
    rw [pow_zero, Nat.div_one]
    refine lt_of_le_of_lt (Nat.div_le_of_le_mul ?_) d.mantissa_lt
    rw [Nat.mul_comm]
    have hten : (10000 : Nat) = 10 ^ 4 := by decide
    rw [hten, ← pow_mul]
    exact Nat.mul_le_mul_right _ (Nat.pow_le_pow_right (by decide) (by omega))

/-- The number that has been read after some groups, the last of them in the fraction. -/
theorem hasRoom_take (d : Decimal) {m : Nat} (hm : m ≤ (allDigits d).length)
    (hfraction : (allDigits d).length ≤ m + fractionGroups d) :
    HasRoom (continued 0 ((allDigits d).take m)) (4 * (m + fractionGroups d - (allDigits d).length))
    := by
  have hroom := @hasRoom_filled d (m + fractionGroups d - (allDigits d).length) (by omega)
  have hexponent : fractionGroups d - (m + fractionGroups d - (allDigits d).length) =
      (allDigits d).length - m := by omega
  rw [hexponent] at hroom
  rw [allDigits, continued_take_groupsOf]
  exact hroom

/-- The number of all groups but for zeros at the end. -/
theorem mantissa_eq_of_isUnits {e : Decimal} {n place zeros : Nat} (he : IsUnits e n place)
    (hfilled : n * 10000 ^ zeros = filled d) (hplace : place + 4 * zeros = 4 * fractionGroups d) :
    e.mantissa * 10 ^ d.scale = d.mantissa * 10 ^ e.scale := by
  obtain ⟨hle, -⟩ := scale_le_fractionGroups d
  have hscale := he.scale_le
  have hten : (10000 : Nat) = 10 ^ 4 := by decide
  have hfull : filled d = d.mantissa * 10 ^ (4 * fractionGroups d - d.scale) := rfl
  rw [← he.units, hfull, hten, ← pow_mul, Nat.mul_assoc, ← pow_add] at hfilled
  have hexponent : place - e.scale + 4 * zeros = 4 * fractionGroups d - e.scale := by omega
  rw [hexponent] at hfilled
  refine Nat.eq_of_mul_eq_mul_right
    (show 0 < 10 ^ (4 * fractionGroups d) from Nat.pow_pos (by decide)) ?_
  calc e.mantissa * 10 ^ d.scale * 10 ^ (4 * fractionGroups d)
      = e.mantissa * 10 ^ (4 * fractionGroups d - e.scale) * 10 ^ (e.scale + d.scale) := by
        rw [Nat.mul_assoc, Nat.mul_assoc, ← pow_add, ← pow_add]
        congr 2
        omega
    _ = d.mantissa * 10 ^ (4 * fractionGroups d - d.scale) * 10 ^ (e.scale + d.scale) := by
        rw [hfilled]
    _ = d.mantissa * 10 ^ e.scale * 10 ^ (4 * fractionGroups d) := by
        rw [Nat.mul_assoc, Nat.mul_assoc, ← pow_add, ← pow_add]
        congr 2
        omega

/-- The number before the point, if none of its groups is left out. -/
theorem whole?_eq {g : Groups} {n : Nat} (hlt : n < Decimal.limit)
    (hlength : (g.digits.take g.wholeCount).length = g.wholeCount)
    (hn : continued 0 (g.digits.take g.wholeCount) = n) :
    g.whole? = some ⟨false, n, 0, hlt, Nat.zero_le _⟩ := by
  have hzeros : Nat.pow 10 (4 * (g.wholeCount - (g.digits.take g.wholeCount).length)) = 1 := by
    rw [hlength, Nat.sub_self, Nat.mul_zero]
  have hfold : (g.digits.take g.wholeCount).foldl (fun n digit => n * 10000 + digit) 0 = n := hn
  unfold whole?
  simp only [hfold, hzeros, Nat.mul_one]
  exact dif_pos ⟨by rw [Decimal.limit_eq]; decide, hlt⟩

/-- Whether groups are read as the magnitude of a decimal, with any number of fraction digits. -/
def SumsTo (g : Groups) (d : Decimal) : Prop :=
  ∃ whole e, g.whole? = some whole ∧
    addFraction? whole g.firstPlace (g.digits.drop g.wholeCount) = some e ∧
    e.mantissa * 10 ^ d.scale = d.mantissa * 10 ^ e.scale

/-- Groups are read as the magnitude of a decimal if they are its groups but for zeros at the end,
and there is room for what is read at any time. The groups before the point are a number `n`, which
is zero if the groups behind the point do not begin at its first place. -/
theorem sumsTo {g : Groups} {place : Nat} (n zeros : Nat) (rest : List Nat)
    (hlength : (g.digits.take g.wholeCount).length = g.wholeCount)
    (hn : continued 0 (g.digits.take g.wholeCount) = n)
    (hrest : g.digits.drop g.wholeCount = rest) (hplace : g.firstPlace = place + 4)
    (hstart : n * 10 ^ place = n)
    (hroom : ∀ m, m ≤ rest.length → HasRoom (continued n (rest.take m)) (place + 4 * m))
    (hfilled : continued n rest * 10000 ^ zeros = filled d)
    (hend : place + 4 * rest.length + 4 * zeros = 4 * fractionGroups d) : g.SumsTo d := by
  have hfraction := fractionGroups_le d
  have hlt : n < Decimal.limit := by
    -- Zeros at the end of a number at its first place are no digits of a fraction.
    obtain ⟨k, hk, hdvd, hlt⟩ := hroom 0 (Nat.zero_le _)
    rcases Nat.eq_zero_or_pos n with rfl | hpos
    · exact Decimal.limit_pos
    · have hone : 10 ^ place = 1 := Nat.eq_of_mul_eq_mul_left hpos (by omega)
      have hk : k = 0 := by
        have := (Nat.pow_eq_one.1 hone).resolve_left (by decide)
        omega
      rw [hk, pow_zero, Nat.div_one] at hlt
      exact hlt
  have hunits : IsUnits ⟨false, n, 0, hlt, Nat.zero_le _⟩ n place := ⟨rfl, Nat.zero_le _, hstart⟩
  obtain ⟨e, he, heunits⟩ := exists_addFraction? hunits (by omega) hroom
  refine ⟨_, e, whole?_eq hlt hlength hn, ?_, mantissa_eq_of_isUnits heunits hfilled hend⟩
  rw [hplace, hrest, he]

/-- The groups of a decimal with a number before its point. -/
theorem sumsTo_of_whole (hd : d.isZero = false)
    (hwhole : fractionGroups d < (allDigits d).length) : (ofDecimal d).SumsTo d := by
  have hgroups := ofDecimal_eq hd
  rw [if_pos (by omega)] at hgroups
  generalize hk : (allDigits d).length - fractionGroups d = k at hgroups
  obtain ⟨zeros, hzeros⟩ := exists_dropTrailingZeros ((allDigits d).drop k)
  generalize dropTrailingZeros ((allDigits d).drop k) = rest at hgroups hzeros
  have hlength : ((allDigits d).take k).length = k := by
    rw [List.length_take]
    omega
  have hrest : rest.length + zeros = fractionGroups d := by
    have hdropped := congrArg List.length hzeros
    rw [List.length_drop, List.length_append, List.length_replicate] at hdropped
    omega
  have hcount : (ofDecimal d).wholeCount = k := by
    rw [wholeCount, hgroups]
    dsimp only
    omega
  have hplace : (ofDecimal d).firstPlace = 0 + 4 := by
    rw [firstPlace, hgroups]
    dsimp only
    omega
  have htake : (ofDecimal d).digits.take k = (allDigits d).take k := by
    rw [hgroups]
    exact List.take_left' hlength
  have hdrop : (ofDecimal d).digits.drop k = rest := by
    rw [hgroups]
    exact List.drop_left' hlength
  refine sumsTo (continued 0 ((allDigits d).take k)) zeros rest ?_ ?_
    (hcount ▸ hdrop) hplace (Nat.mul_one _) ?_ ?_ (by omega)
  · rw [hcount, htake, hlength]
  · rw [hcount, htake]
  · intro m hm
    -- What is read so far is what the first groups of all say.
    have hprefix : (allDigits d).take k ++ rest.take m = (allDigits d).take (k + m) := by
      rw [List.take_add, hzeros, List.take_append_of_le_length hm]
    have hgroups : 0 + 4 * m = 4 * (k + m + fractionGroups d - (allDigits d).length) := by omega
    rw [← continued_append, hprefix, hgroups]
    exact hasRoom_take d (by omega) (by omega)
  · have hall : (allDigits d).take k ++ (rest ++ List.replicate zeros 0) = allDigits d := by
      rw [← hzeros, List.take_append_drop]
    rw [← continued_replicate, ← continued_append, ← continued_append, hall]
    exact continued_groupsOf _

/-- The groups of a decimal without a number before its point. -/
theorem sumsTo_of_fraction (hd : d.isZero = false)
    (hfraction : (allDigits d).length ≤ fractionGroups d) : (ofDecimal d).SumsTo d := by
  have hgroups := ofDecimal_eq hd
  rw [if_neg (by omega)] at hgroups
  have hcount : (ofDecimal d).wholeCount = 0 := by
    rw [wholeCount, hgroups]
    dsimp only
    omega
  have hplace : (ofDecimal d).firstPlace =
      4 * (fractionGroups d - (allDigits d).length) + 4 := by
    rw [firstPlace, hgroups]
    dsimp only
    omega
  have hdigits : (ofDecimal d).digits = allDigits d := by rw [hgroups]
  refine sumsTo 0 0 (allDigits d) ?_ ?_ ?_ hplace (Nat.zero_mul _) ?_ ?_ (by omega)
  · rw [hcount]
    rfl
  · rw [hcount]
    rfl
  · rw [hcount, hdigits, List.drop_zero]
  · intro m hm
    have hgroups : 4 * (fractionGroups d - (allDigits d).length) + 4 * m =
        4 * (m + fractionGroups d - (allDigits d).length) := by omega
    rw [hgroups]
    exact hasRoom_take d hm (by omega)
  · rw [pow_zero, Nat.mul_one]
    exact continued_groupsOf _

/-- A decimal other than zero is read back from its groups as it is. -/
theorem decimal?_ofDecimal (hd : d.isZero = false) : (ofDecimal d).decimal? = some d := by
  obtain ⟨whole, e, hwhole, hsum, hmantissa⟩ : (ofDecimal d).SumsTo d := by
    rcases Nat.lt_or_ge (fractionGroups d) (allDigits d).length with hwhole | hfraction
    · exact sumsTo_of_whole hd hwhole
    · exact sumsTo_of_fraction hd hfraction
  have hne : d.mantissa ≠ 0 := by
    intro hzero
    rw [Decimal.isZero, hzero] at hd
    exact absurd hd (by decide)
  have hparts : (ofDecimal d).negative = d.negative ∧
      min (ofDecimal d).scale Decimal.maxScale = d.scale := by
    rw [ofDecimal_eq hd]
    exact ⟨rfl, Nat.min_eq_left d.scale_le⟩
  unfold decimal?
  rw [hwhole]
  show (addFraction? whole _ _).bind _ = _
  rw [hsum]
  show some _ = some d
  refine congrArg some ?_
  simp only [hparts.1, hparts.2]
  exact @rescale_eq d { e with negative := d.negative } hne rfl hmantissa

/-- A zero is read back from its groups without a sign and with no fraction digit. -/
theorem decimal?_of_isZero (hd : d.isZero = true) :
    (ofDecimal d).decimal? = some .zero := by
  have hgroups : ofDecimal d = ⟨0, false, 0, []⟩ := if_pos hd
  rw [hgroups]
  decide

end Groups

end TypedTable.Wire
