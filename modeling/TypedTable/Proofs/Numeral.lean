import Mathlib.Data.List.TakeWhile
import TypedTable.Decimal.Printer
import TypedTable.Proofs.Decimal.Reader
/-!
# Numbers written out in digits

A `Numeral` is a number as it is written out: perhaps a sign, digits, and perhaps a point with more
digits. There is no bound on their number, so a decimal may have no room for all of them
(`Numeral.HasRoom`).

What is read from the text of a numeral (`Numeral.IsText`) is its number, rounded to as many places
as there is room for, a half going away from zero (`Numeral.scale_of_ofText?`,
`Numeral.value_of_ofText?`). Nothing is read exactly if there is no room for the whole part
(`Numeral.ofText?_eq_none_iff`), and a number that has room is read as it is
(`Numeral.exists_ofText?`). The text of a decimal is a numeral of the same number
(`Decimal.value_numeral`), so it is read back (`Decimal.exists_ofText?_text`).
-/

namespace TypedTable

open Text

/-- A number written out: perhaps a sign, digits, and perhaps a point with digits behind it. -/
structure Numeral where
  /-- The sign, if one is written: whether it is a minus. -/
  sign : Option Bool
  /-- The digits in front of the point. -/
  whole : List Char
  /-- The digits behind the point, if there is one. -/
  fraction : Option (List Char)
  whole_digits : AllDigits whole
  fraction_digits : AllDigits (fraction.getD [])
  digits_ne_nil : whole ++ fraction.getD [] ≠ []

namespace Numeral

/-- The sign as it is written. -/
def signCharacters : Option Bool → List Char
  | none => []
  | some true => ['-']
  | some false => ['+']

/-- The digits behind a point as they are written. -/
def pointCharacters : Option (List Char) → List Char
  | none => []
  | some cs => '.' :: cs

/-- The number written out. -/
def characters (n : Numeral) : List Char :=
  signCharacters n.sign ++ (n.whole ++ pointCharacters n.fraction)

/-- Whether a text is the number written out, perhaps with blanks around it. -/
def IsText (n : Numeral) (s : String) : Prop :=
  ∃ front back, (∀ c ∈ front, isBlank c = true) ∧ (∀ c ∈ back, isBlank c = true) ∧
    s.toList = front ++ (n.characters ++ back)

/-- Whether the sign is a minus. -/
def negative (n : Numeral) : Bool := n.sign == some true

/-- The number that the digits stand for without the point. -/
def mantissa (n : Numeral) : ℕ := Nat.ofDigitChars 10 (n.whole ++ n.fraction.getD []) 0

/-- The number of digits behind the point. -/
def scale (n : Numeral) : ℕ := (n.fraction.getD []).length

/-- The number without its sign. -/
def magnitude (n : Numeral) : ℚ := (n.mantissa : ℚ) / (10 ^ n.scale : ℕ)

/-- The number that is written. -/
def value (n : Numeral) : ℚ := if n.negative then -n.magnitude else n.magnitude

/-- The number rounded to a number of places, a half going away from zero. -/
def rounded (n : Numeral) (places : ℕ) : ℚ := nearestAway (n.value * 10 ^ places) / 10 ^ places

/-- Whether a decimal has room for the number rounded to a number of its places. -/
def HasRoom (n : Numeral) (places : ℕ) : Prop :=
  places ≤ Decimal.maxScale ∧ places ≤ n.scale ∧
    nearestAway (n.magnitude * 10 ^ places) < Decimal.limit

end Numeral

/-! ### Blanks around a text -/

/-- The blanks at the ends of a text without other blanks are cut off. -/
theorem Text.trim_append {front cs back : List Char} (hfront : ∀ c ∈ front, isBlank c = true)
    (hcs : ∀ c ∈ cs, isBlank c = false) (hback : ∀ c ∈ back, isBlank c = true) :
    trim (front ++ (cs ++ back)) = cs := by
  have hdrop : ∀ {ds es : List Char}, (∀ c ∈ ds, isBlank c = true) → dropBlanks (ds ++ es) =
      dropBlanks es := fun hds => List.dropWhile_append_of_pos hds
  rw [trim, hdrop hfront]
  cases hrev : cs.reverse with
  | nil =>
    obtain rfl := List.reverse_eq_nil_iff.1 hrev
    have hempty := @hdrop back [] hback
    rw [List.append_nil] at hempty
    rw [List.nil_append, hempty]
    rfl
  | cons e es =>
    have hfirst : dropBlanks (cs ++ back) = cs ++ back := by
      cases cs with
      | nil => cases hrev
      | cons c cs => exact dropBlanks_cons_of_not_blank _ (hcs c List.mem_cons_self)
    have hlast : isBlank e = false :=
      hcs e (List.mem_reverse.1 (hrev ▸ List.mem_cons_self))
    rw [hfirst, List.reverse_append, hdrop (fun c hc => hback c (List.mem_reverse.1 hc)), hrev,
      dropBlanks_cons_of_not_blank es hlast, ← hrev, List.reverse_reverse]

namespace Numeral

/-! ### Reading a numeral -/

variable {n : Numeral} {s : String} {d : Decimal}

/-- The characters that a numeral is written with. -/
theorem mem_characters (n : Numeral) {c : Char} (h : c ∈ n.characters) :
    c.isDigit = true ∨ c = '-' ∨ c = '+' ∨ c = '.' := by
  rw [characters, List.mem_append, List.mem_append] at h
  rcases h with h | h | h
  · cases hsign : n.sign with
    | none => exact (nomatch hsign ▸ h)
    | some minus =>
      rw [hsign] at h
      cases minus <;> rw [signCharacters, List.mem_singleton] at h <;> simp [h]
  · exact .inl (n.whole_digits c h)
  · have hdigits := n.fraction_digits
    cases hfraction : n.fraction with
    | none => exact (nomatch hfraction ▸ h)
    | some cs =>
      rw [hfraction] at h hdigits
      rcases List.mem_cons.1 h with rfl | h
      · simp
      · exact .inl (hdigits c h)

/-- The text of a numeral without the blanks around it. -/
theorem trim_of_isText (h : n.IsText s) : trim s.toList = n.characters := by
  obtain ⟨front, back, hfront, hback, hs⟩ := h
  rw [hs]
  refine trim_append hfront (fun c hc => ?_) hback
  rcases n.mem_characters hc with hdigit | rfl | rfl | rfl
  · exact isBlank_of_isDigit hdigit
  · decide
  · decide
  · decide

/-- The sign is read first. -/
theorem plain?_eq_readFrom (n : Numeral) : Decimal.plain? n.characters =
    Decimal.readFrom n.negative .empty (n.whole ++ pointCharacters n.fraction) := by
  unfold characters negative
  cases n.sign with
  | some minus => cases minus <;> rfl
  | none =>
    show Decimal.plain? (n.whole ++ pointCharacters n.fraction) =
      Decimal.readFrom false .empty (n.whole ++ pointCharacters n.fraction)
    have hdigits := n.whole_digits
    have hne := n.digits_ne_nil
    cases hwhole : n.whole with
    | nil =>
      cases hfraction : n.fraction with
      | none => exact absurd (by rw [hwhole, hfraction]; rfl) hne
      | some cs => rfl
    | cons c cs =>
      have hc : c.isDigit = true := (allDigits_cons.1 (hwhole ▸ hdigits)).1
      rw [List.cons_append, Decimal.plain?]
      · rintro rest ⟨⟩
        exact absurd hc (by decide)
      · rintro rest ⟨⟩
        exact absurd hc (by decide)

/-- What is read of a numeral is its number with as many digits as there is room for. -/
theorem plain?_spec (n : Numeral) :
    (∀ d, Decimal.plain? n.characters = some d → d.Approximates n.negative n.mantissa n.scale) ∧
      (Decimal.plain? n.characters = none → ¬Decimal.Fits n.mantissa n.scale 0) := by
  rw [plain?_eq_readFrom, Decimal.readFrom_whole rfl (by decide) n.whole_digits]
  have hne := n.digits_ne_nil
  have hdigits := n.fraction_digits
  split
  · next hlt =>
    cases hfraction : n.fraction with
    | none =>
      have hwhole : n.whole ≠ [] := by simpa [hfraction] using hne
      have hmantissa : n.mantissa = Nat.ofDigitChars 10 n.whole 0 := by simp [mantissa, hfraction]
      have hscale : n.scale = 0 := by simp [scale, hfraction]
      obtain ⟨d, hd, happroximates⟩ := @Decimal.finish_spec n.negative
        ⟨_, 0, false, false || !n.whole.isEmpty, hlt, Nat.zero_le _⟩ (by simp [hwhole])
      rw [hmantissa, hscale]
      refine ⟨fun e he => ?_, fun hnone => absurd (hd.symm.trans hnone) (Option.some_ne_none d)⟩
      cases hd.symm.trans he
      exact happroximates
    | some cs =>
      rw [hfraction] at hdigits
      rw [pointCharacters, Decimal.readFrom_point rfl (show 0 < 28 by decide)]
      refine Decimal.readFrom_fraction rfl ?_ hdigits ?_ ?_
      · by_cases hwhole : n.whole = []
        · exact .inr (by simpa [hwhole, hfraction] using hne)
        · exact .inl (by simp [hwhole])
      · rw [mantissa, hfraction, Nat.ofDigitChars_append]
        rfl
      · simp [scale, hfraction, Decimal.Prefix.empty]
  · next hge =>
    refine ⟨fun d h => absurd h (Option.some_ne_none d).symm, fun _ hfits => ?_⟩
    have hwhole : n.mantissa / 10 ^ n.scale = Nat.ofDigitChars 10 n.whole 0 := by
      rw [mantissa, Nat.ofDigitChars_append]
      exact value_from_div hdigits _
    have hle := Decimal.div_le_quotient n.mantissa n.scale
    rw [hwhole] at hle
    exact hge (Nat.lt_of_le_of_lt hle hfits.2.2)

/-- A numeral is read as such: it has no exponent. -/
theorem ofText?_eq_plain? (h : n.IsText s) : Decimal.ofText? s = Decimal.plain? n.characters := by
  have hmark : ∀ c ∈ n.characters, Decimal.isExponentMark c = false := by
    intro c hc
    rcases n.mem_characters hc with hdigit | rfl | rfl | rfl
    · cases hmark : Decimal.isExponentMark c with
      | false => rfl
      | true =>
        rw [Decimal.isExponentMark, Bool.or_eq_true, beq_iff_eq, beq_iff_eq] at hmark
        rcases hmark with rfl | rfl <;> exact absurd hdigit (by decide)
    · decide
    · decide
    · decide
  have htake : n.characters.takeWhile (!Decimal.isExponentMark ·) = n.characters :=
    List.takeWhile_eq_self_iff.2 fun c hc => by rw [hmark c hc]; rfl
  rw [Decimal.ofText?, trim_of_isText h]
  cases hplain : Decimal.plain? n.characters with
  | some d => rfl
  | none =>
    have hscientific : Decimal.scientific? n.characters = none := by
      rw [Decimal.scientific?, htake, hplain]
      rfl
    rw [hscientific]
    rfl

/-! ### Room for a number -/

theorem magnitude_nonneg (n : Numeral) : 0 ≤ n.magnitude := by
  unfold magnitude
  positivity

theorem abs_value (n : Numeral) : |n.value| = n.magnitude := by
  unfold value
  split
  · rw [abs_neg, abs_of_nonneg n.magnitude_nonneg]
  · exact abs_of_nonneg n.magnitude_nonneg

/-- The digits of the places that are kept, rounded. -/
theorem nearestAway_magnitude (n : Numeral) {k : ℕ} (h : k ≤ n.scale) :
    nearestAway (n.magnitude * 10 ^ k) = Decimal.quotient n.mantissa (n.scale - k) :=
  Decimal.nearestAway_div_pow h

theorem hasRoom_iff {k : ℕ} : n.HasRoom k ↔ Decimal.Fits n.mantissa n.scale k := by
  refine and_congr_right fun _ => and_congr_right fun hk => ?_
  rw [n.nearestAway_magnitude hk, Nat.cast_lt]

/-- A number with fewer digits behind the point needs less room. -/
theorem hasRoom_zero {k : ℕ} (h : n.HasRoom k) : n.HasRoom 0 :=
  hasRoom_iff.2 (Decimal.fits_zero (hasRoom_iff.1 h))

/-- There is room for a number whose digits are within those of a decimal. -/
theorem hasRoom_scale (hscale : n.scale ≤ Decimal.maxScale) (hm : n.mantissa < Decimal.limit) :
    n.HasRoom n.scale := by
  refine hasRoom_iff.2 ⟨hscale, le_rfl, ?_⟩
  rwa [Nat.sub_self, Decimal.quotient_zero]

/-! ### The number that is read -/

theorem rounded_eq (n : Numeral) (k : ℕ) : n.rounded k =
    if n.negative then -(nearestAway (n.magnitude * 10 ^ k) / 10 ^ k : ℚ)
    else nearestAway (n.magnitude * 10 ^ k) / 10 ^ k := by
  unfold rounded value
  split
  · rw [neg_mul, nearestAway_neg, Int.cast_neg, neg_div]
  · rfl

/-- A number is left as it is by rounding it to the places that it has. -/
theorem rounded_scale (n : Numeral) : n.rounded n.scale = n.value := by
  rw [rounded_eq, nearestAway_magnitude n le_rfl, Nat.sub_self, Decimal.quotient_zero, value,
    magnitude]
  push_cast
  rfl

/-- A numeral is read to as many places as there is room for. -/
theorem scale_of_ofText? (h : n.IsText s) (hd : Decimal.ofText? s = some d) :
    IsGreatest {k | n.HasRoom k} d.scale := by
  rw [ofText?_eq_plain? h] at hd
  simpa only [hasRoom_iff] using (n.plain?_spec.1 d hd).greatest

/-- A numeral is read as its number, rounded to the places that are kept. -/
theorem value_of_ofText? (h : n.IsText s) (hd : Decimal.ofText? s = some d) :
    d.value = n.rounded d.scale := by
  rw [ofText?_eq_plain? h] at hd
  have happroximates := n.plain?_spec.1 d hd
  have hmagnitude : d.magnitude = nearestAway (n.magnitude * 10 ^ d.scale) / 10 ^ d.scale := by
    rw [nearestAway_magnitude n happroximates.greatest.1.2.1, Decimal.magnitude,
      happroximates.mantissa_eq]
    push_cast
    rfl
  rw [Decimal.value_eq_of_sign happroximates.negative_eq, rounded_eq, hmagnitude]

/-- A numeral is not read exactly if there is no room for its whole part. -/
theorem ofText?_eq_none_iff (h : n.IsText s) : Decimal.ofText? s = none ↔ ¬n.HasRoom 0 := by
  constructor
  · intro hnone
    rw [ofText?_eq_plain? h] at hnone
    exact mt hasRoom_iff.1 (n.plain?_spec.2 hnone)
  · intro hroom
    cases hd : Decimal.ofText? s with
    | none => rfl
    | some d => exact absurd (hasRoom_zero (scale_of_ofText? h hd).1) hroom

/-- A numeral that has room with all its digits is read as its number. -/
theorem exists_ofText? (h : n.IsText s) (hroom : n.HasRoom n.scale) :
    ∃ d, Decimal.ofText? s = some d ∧ d.value = n.value := by
  cases hd : Decimal.ofText? s with
  | none => exact absurd (hasRoom_zero hroom) ((ofText?_eq_none_iff h).1 hd)
  | some d =>
    have hgreatest := scale_of_ofText? h hd
    have hscale : d.scale = n.scale := le_antisymm hgreatest.1.2.1 (hgreatest.2 hroom)
    exact ⟨d, rfl, by rw [value_of_ofText? h hd, hscale, rounded_scale]⟩

end Numeral

/-! ### The text of a decimal -/

namespace Decimal

/-- The digits of a decimal, of which at least one stands in front of the point. -/
def digits (d : Decimal) : List Char := padded (d.scale + 1) d.mantissa

theorem scale_lt_length_digits (d : Decimal) : d.scale < d.digits.length :=
  width_le_length_padded (d.scale + 1) d.mantissa

/-- A decimal as it is written out. -/
def numeral (d : Decimal) : Numeral where
  sign := if d.negative then some true else none
  whole := d.digits.take (d.digits.length - d.scale)
  fraction := if d.scale = 0 then none else some (d.digits.drop (d.digits.length - d.scale))
  whole_digits _ hc := allDigits_padded _ _ _ (List.mem_of_mem_take hc)
  fraction_digits _ hc := by
    split at hc
    · exact (nomatch hc)
    · exact allDigits_padded _ _ _ (List.mem_of_mem_drop hc)
  digits_ne_nil h := by
    have hlength := d.scale_lt_length_digits
    rcases List.take_eq_nil_iff.1 (List.append_eq_nil_iff.1 h).1 with hzero | hnil
    · omega
    · rw [hnil] at hlength
      exact Nat.not_lt_zero _ hlength

theorem fraction_numeral (d : Decimal) :
    d.numeral.fraction.getD [] = d.digits.drop (d.digits.length - d.scale) := by
  by_cases hscale : d.scale = 0
  · simp [numeral, hscale]
  · simp [numeral, hscale]

theorem characters_numeral (d : Decimal) : d.numeral.characters = d.characters := by
  have hunsigned : d.numeral.whole ++ Numeral.pointCharacters d.numeral.fraction =
      unsignedText d.mantissa d.scale := by
    by_cases hscale : d.scale = 0
    · simp [numeral, unsignedText, Numeral.pointCharacters, hscale, digits]
    · simp [numeral, unsignedText, Numeral.pointCharacters, hscale, digits]
  rw [Numeral.characters, hunsigned]
  unfold numeral characters
  cases d.negative <;> rfl

theorem mantissa_numeral (d : Decimal) : d.numeral.mantissa = d.mantissa := by
  rw [Numeral.mantissa, fraction_numeral]
  show Nat.ofDigitChars 10 (d.digits.take _ ++ _) 0 = d.mantissa
  rw [List.take_append_drop]
  exact value_padded (d.scale + 1) d.mantissa

theorem scale_numeral (d : Decimal) : d.numeral.scale = d.scale := by
  have hlength := d.scale_lt_length_digits
  rw [Numeral.scale, fraction_numeral, List.length_drop]
  omega

/-- A decimal is written as the number that it is. -/
theorem value_numeral (d : Decimal) : d.numeral.value = d.value := by
  have hmagnitude : d.numeral.magnitude = d.magnitude := by
    rw [Numeral.magnitude, mantissa_numeral, scale_numeral, magnitude]
  have hnegative : d.numeral.negative = d.negative := by
    unfold Numeral.negative numeral
    cases d.negative <;> rfl
  rw [Numeral.value, hmagnitude, hnegative]
  split
  · next h => exact (value_of_negative h).symm
  · next h => exact (value_of_not_negative (Bool.eq_false_iff.2 h)).symm

/-- The text of a decimal is read as the number that it is. -/
theorem exists_ofText?_text (d : Decimal) :
    ∃ d', ofText? d.text = some d' ∧ d'.value = d.value := by
  have htext : d.numeral.IsText d.text := by
    refine ⟨[], [], fun _ h => (nomatch h), fun _ h => (nomatch h), ?_⟩
    rw [text, String.toList_ofList, characters_numeral, List.nil_append, List.append_nil]
  have hroom : d.numeral.HasRoom d.numeral.scale := by
    refine Numeral.hasRoom_scale ?_ ?_
    · rw [scale_numeral]
      exact d.scale_le
    · rw [mantissa_numeral]
      exact d.mantissa_lt
  rw [← d.value_numeral]
  exact Numeral.exists_ofText? htext hroom

/-- An integer is written as the decimal that it is. -/
theorem text_ofInt64 (n : Int64) : (ofInt64 n).text = integerText n.toInt := by
  have hlt : n < 0 ↔ n.toInt < 0 := Int64.lt_iff_toInt_lt
  have hdigits : unsignedText n.toInt.natAbs 0 = natural n.toInt.natAbs := by
    have hlength : 1 - (natural n.toInt.natAbs).length = 0 :=
      Nat.sub_eq_zero_of_le Nat.length_toDigits_pos
    show List.replicate (1 - (natural n.toInt.natAbs).length) '0' ++ natural n.toInt.natAbs = _
    rw [hlength]
    rfl
  show String.ofList (if decide (n < 0) && n.toInt.natAbs != 0 then
    '-' :: unsignedText n.toInt.natAbs 0 else unsignedText n.toInt.natAbs 0) = _
  rw [hdigits, integerText, integer]
  by_cases hn : n.toInt < 0
  · have hne : n.toInt.natAbs ≠ 0 := by omega
    simp [hlt, hn, hne]
  · simp [hlt, hn]

end Decimal

end TypedTable
