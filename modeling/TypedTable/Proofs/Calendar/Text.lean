import TypedTable.Calendar.Form
import TypedTable.Calendar.Printer
import TypedTable.Proofs.Digits
/-!
# Dates and timestamps are read back

A number is written with all the digits of its width, or has a character behind it that is no digit
(`HeadNotDigit`), so each item of a pattern reads what was written for it and leaves the rest. A
pattern then reads the parts one after the other (`Pattern.read?_cons`).

A date is read back from its text (`Date.ofText?_text`), and so is a timestamp whose offset is a
whole number of minutes (`Timestamp.ofText?_text`). The strict form of a timestamp takes the years
that are written without a sign, with the same result as the loose form; a year with a sign has only
the loose one.
-/

namespace TypedTable

open Text

/-! ### Digits at the front of a text -/

/-- Whether a text does not begin with a digit. -/
def Text.HeadNotDigit (cs : List Char) : Prop := ∀ c ∈ cs.head?, c.isDigit = false

namespace Calendar

variable {width n : Nat} {ds rest : List Char}

/-- The digits at the front are those of a run that ends there, or fills the width. -/
theorem splitDigits_append (hds : AllDigits ds)
    (hwidth : ds.length = width ∨ ds.length ≤ width ∧ HeadNotDigit rest) :
    splitDigits width (ds ++ rest) = (ds, rest) := by
  have hle : ds.length ≤ width := by
    rcases hwidth with h | h
    · exact Nat.le_of_eq h
    · exact h.1
  have hstop : (rest.take (width - ds.length)).takeWhile Char.isDigit = [] := by
    rcases hwidth with rfl | ⟨-, hrest⟩
    · rw [Nat.sub_self, List.take_zero, List.takeWhile_nil]
    · cases rest with
      | nil => rw [List.take_nil, List.takeWhile_nil]
      | cons c rest =>
        cases width - ds.length with
        | zero => rfl
        | succ k =>
          rw [List.take_succ_cons, List.takeWhile_cons_of_neg (by simp [hrest c rfl])]
  have hdigits : ((ds ++ rest).take width).takeWhile Char.isDigit = ds := by
    rw [List.take_append, List.take_of_length_le hle, List.takeWhile_append_of_pos hds, hstop,
      List.append_nil]
  rw [splitDigits, hdigits, List.drop_left]

theorem number?_append (hds : AllDigits ds) (hne : ds ≠ [])
    (hwidth : ds.length = width ∨ ds.length ≤ width ∧ HeadNotDigit rest) :
    number? width (ds ++ rest) = some (Nat.ofDigitChars 10 ds 0, rest) := by
  rw [number?, splitDigits_append hds hwidth]
  exact if_neg (by simpa using hne)

theorem padded_ne_nil (width n : Nat) : padded width n ≠ [] := by
  unfold padded natural List.leftpad
  simp [Nat.toDigits_ne_nil]

/-- A number that was written to a width is read to that width. -/
theorem exactNumber?_padded (hwidth : 0 < width) (hn : n < 10 ^ width) :
    exactNumber? width (padded width n ++ rest) = some (n, rest) := by
  have hlength := length_padded hwidth hn
  rw [exactNumber?, splitDigits_append (allDigits_padded width n) (.inl hlength)]
  show (if (padded width n).length = width then
    some (Nat.ofDigitChars 10 (padded width n) 0, rest) else none) = some (n, rest)
  rw [if_pos hlength, value_padded]

/-- A text that does not begin with a digit does not begin with a number. -/
theorem exactNumber?_of_headNotDigit (hwidth : 0 < width) (hrest : HeadNotDigit rest) :
    exactNumber? width rest = none := by
  have hsplit := @splitDigits_append width [] rest (fun _ h => (nomatch h))
    (.inr ⟨Nat.zero_le _, hrest⟩)
  rw [List.nil_append] at hsplit
  rw [exactNumber?, hsplit]
  exact if_neg (Nat.ne_of_lt hwidth)

/-! ### Numbers of a date or time -/

theorem exists_padded_eq_cons (width n : Nat) :
    ∃ c cs, padded width n = c :: cs ∧ c.isDigit = true := by
  obtain ⟨c, cs, h⟩ := List.exists_cons_of_ne_nil (padded_ne_nil width n)
  exact ⟨c, cs, h, allDigits_padded width n c (h ▸ List.mem_cons_self)⟩

theorem dropBlanks_padded (width n : Nat) (rest : List Char) :
    dropBlanks (padded width n ++ rest) = padded width n ++ rest := by
  obtain ⟨c, cs, hcs, hc⟩ := exists_padded_eq_cons width n
  rw [hcs]
  exact dropBlanks_cons_of_not_blank _ (isBlank_of_isDigit hc)

theorem dropBlanks_year (year : Int) (rest : List Char) :
    dropBlanks (yearCharacters year ++ rest) = yearCharacters year ++ rest := by
  unfold yearCharacters
  split
  · exact dropBlanks_cons_of_not_blank _ (by decide)
  · split
    · exact dropBlanks_cons_of_not_blank _ (by decide)
    · exact dropBlanks_padded 4 year.natAbs rest

/-- No blanks are cut from a text that ends with a number and does not begin with a blank. -/
theorem trim_append_padded (h : dropBlanks (ds ++ padded width n) = ds ++ padded width n) :
    trim (ds ++ padded width n) = ds ++ padded width n := by
  obtain ⟨e, es, hes⟩ := List.exists_cons_of_ne_nil
    (List.reverse_ne_nil_iff.2 (padded_ne_nil width n))
  have he : isBlank e = false := isBlank_of_isDigit
    (allDigits_padded width n e (List.mem_reverse.1 (hes ▸ List.mem_cons_self)))
  rw [trim, h, List.reverse_append, hes, List.cons_append, dropBlanks_cons_of_not_blank _ he,
    ← List.cons_append, ← hes, ← List.reverse_append, List.reverse_reverse]

/-- Where there is no sign, a loose number takes the digits of its part. -/
theorem looseNumber?_of_isDigit (part : Part) {c : Char} (cs : List Char) (hc : c.isDigit = true) :
    looseNumber? part (c :: cs) =
      (number? part.width (c :: cs)).map fun (n, rest) => ((n : Int), rest) := by
  unfold looseNumber?
  split
  · next h =>
    obtain rfl := (List.cons.inj h).1
    exact (nomatch hc)
  · next h =>
    obtain rfl := (List.cons.inj h).1
    exact (nomatch hc)
  · rfl

theorem looseNumber?_padded (part : Part) (hn : n < 10 ^ part.width) :
    looseNumber? part (padded part.width n ++ rest) = some ((n : Int), rest) := by
  have hwidth : 0 < part.width := by cases part <;> decide
  have hnumber : number? part.width (padded part.width n ++ rest) = some (n, rest) := by
    rw [number?_append (allDigits_padded part.width n) (padded_ne_nil part.width n)
      (.inl (length_padded hwidth hn)), value_padded]
  obtain ⟨c, cs, hcs, hc⟩ := exists_padded_eq_cons part.width n
  rw [hcs] at hnumber ⊢
  rw [List.cons_append, looseNumber?_of_isDigit part _ hc, ← List.cons_append, hnumber]
  rfl

/-- A year with a sign takes all digits that follow it. -/
theorem number?_year (year : Int) (hrest : HeadNotDigit rest) :
    number? (padded 4 year.natAbs ++ rest).length (padded 4 year.natAbs ++ rest) =
      some (year.natAbs, rest) := by
  have hle : (padded 4 year.natAbs).length ≤ (padded 4 year.natAbs ++ rest).length := by
    rw [List.length_append]
    exact Nat.le_add_right ..
  rw [number?_append (allDigits_padded _ _) (padded_ne_nil _ _) (.inr ⟨hle, hrest⟩), value_padded]

/-- A year is read back, with its sign if it has one. -/
theorem looseNumber?_year (year : Int) (hrest : HeadNotDigit rest) :
    looseNumber? .year (yearCharacters year ++ rest) = some (year, rest) := by
  have hminus : ∀ cs, looseNumber? .year ('-' :: cs) =
      (number? cs.length cs).map fun (n, rest) => (-(n : Int), rest) := fun _ => rfl
  have hplus : ∀ cs, looseNumber? .year ('+' :: cs) =
      (number? cs.length cs).map fun (n, rest) => ((n : Int), rest) := fun _ => rfl
  unfold yearCharacters
  split
  · next hneg =>
    rw [List.cons_append, hminus, number?_year year hrest, Option.map_some]
    simp only [Option.some.injEq, Prod.mk.injEq, and_true]
    omega
  · split
    · next hlarge =>
      rw [List.cons_append, hplus, number?_year year hrest, Option.map_some]
      simp only [Option.some.injEq, Prod.mk.injEq, and_true]
      omega
    · have hwidth : year.natAbs < 10 ^ Part.year.width := by
        show year.natAbs < 10 ^ 4
        omega
      refine (looseNumber?_padded .year hwidth).trans ?_
      simp only [Option.some.injEq, Prod.mk.injEq, and_true]
      omega

/-! ### Items -/

variable {r r' : Reading} {cs : List Char} {item : Item} {p q : Pattern} {strict : Bool}

theorem Pattern.read?_cons (h : item.read? r cs = some (r', rest)) :
    Pattern.read? r cs (item :: p) = Pattern.read? r' rest p := by
  rw [Pattern.read?, h]
  rfl

theorem Pattern.read?_append (h : Pattern.read? r cs p = some (r', rest)) :
    Pattern.read? r cs (p ++ q) = Pattern.read? r' rest q := by
  induction p generalizing r cs with
  | nil =>
    cases h
    rfl
  | cons item p ih =>
    rw [Pattern.read?, Option.bind_eq_some_iff] at h
    obtain ⟨⟨r₁, rest₁⟩, hitem, h⟩ := h
    rw [List.cons_append, Pattern.read?_cons hitem]
    exact ih h

/-- A number that is read strictly or loosely. -/
def Item.number (strict : Bool) (part : Part) : Item := if strict then .fixed part else .loose part

theorem Item.read?_number (strict : Bool) (part : Part) (hn : n < 10 ^ width)
    (hwidth : part.width = width) :
    (Item.number strict part).read? r (padded width n ++ rest) = some (r.set part n, rest) := by
  subst hwidth
  cases strict with
  | true =>
    have hwidth : 0 < part.width := by cases part <;> decide
    show (exactNumber? part.width (padded part.width n ++ rest)).map _ = _
    rw [exactNumber?_padded hwidth hn]
    rfl
  | false =>
    show (looseNumber? part (dropBlanks (padded part.width n ++ rest))).map _ = _
    rw [dropBlanks_padded, looseNumber?_padded part hn]
    rfl

/-- Whether a year is written without a sign. -/
def IsUnsigned (year : Int) : Prop := 0 ≤ year ∧ year ≤ 9999

/-- A year is read strictly only if it has no sign. -/
theorem Item.read?_year (year : Int) (hstrict : strict = true → IsUnsigned year)
    (hrest : HeadNotDigit rest) :
    (Item.number strict .year).read? r (yearCharacters year ++ rest) =
      some ({ r with year := year }, rest) := by
  cases strict with
  | true =>
    obtain ⟨hlow, hhigh⟩ := hstrict rfl
    have hcharacters : yearCharacters year = padded 4 year.natAbs := by
      rw [yearCharacters, if_neg (by omega), if_neg (by omega)]
    have hyear : (year.natAbs : Int) = year := by omega
    rw [hcharacters, Item.read?_number true .year (show year.natAbs < 10 ^ 4 by omega) rfl,
      Reading.set, hyear]
  | false =>
    show (looseNumber? .year (dropBlanks (yearCharacters year ++ rest))).map _ = _
    rw [dropBlanks_year, looseNumber?_year year hrest]
    rfl

theorem Item.read?_oneOf {choices : List Char} {c : Char} (hc : choices.contains c = true) :
    (Item.oneOf choices).read? r (c :: rest) = some (r, rest) := if_pos hc

/-- Digits of a fraction count from the first place. -/
theorem nanoseconds?_padded (hwidth : 0 < width ∧ width ≤ 9) (hn : n < 10 ^ width)
    (hrest : HeadNotDigit rest) :
    nanoseconds? (padded width n ++ rest) = some (n * 10 ^ (9 - width), rest) := by
  have hlength := length_padded hwidth.1 hn
  have hdrop : rest.dropWhile Char.isDigit = rest := by
    cases rest with
    | nil => rfl
    | cons c rest => exact List.dropWhile_cons_of_neg (by simp [hrest c rfl])
  rw [nanoseconds?, splitDigits_append (allDigits_padded width n)
    (.inr ⟨Nat.le_trans (Nat.le_of_eq hlength) hwidth.2, hrest⟩)]
  show (if (padded width n).isEmpty then none else some (Nat.ofDigitChars 10 (padded width n) 0 *
    10 ^ (9 - (padded width n).length), rest.dropWhile Char.isDigit)) = _
  rw [if_neg (by simp [padded_ne_nil]), value_padded, hlength, hdrop]

theorem Item.read?_fraction_of_head (hpoint : rest.head? ≠ some '.') :
    Item.fraction.read? r rest = some (r, rest) := by
  simp only [Item.read?]
  split
  · exact absurd rfl hpoint
  · rfl

/-- The fraction of a second is read back: no digit of it is left out. -/
theorem Item.read?_fraction {nano : Nat} (hr : r.nano = 0) (hnano : nano < 1000000000)
    (hrest : HeadNotDigit rest) (hpoint : rest.head? ≠ some '.') :
    Item.fraction.read? r (fractionCharacters nano ++ rest) =
      some ({ r with nano := nano }, rest) := by
  have hread : ∀ width n, 0 < width ∧ width ≤ 9 → n < 10 ^ width → n * 10 ^ (9 - width) = nano →
      Item.fraction.read? r ('.' :: padded width n ++ rest) =
        some ({ r with nano := nano }, rest) := by
    intro width n hwidth hn heq
    show (nanoseconds? (padded width n ++ rest)).map _ = _
    rw [nanoseconds?_padded hwidth hn hrest, heq]
    rfl
  unfold fractionCharacters
  split
  · next hzero =>
    rw [List.nil_append, Item.read?_fraction_of_head hpoint, hzero, ← hr]
  · split
    · exact hread 3 (nano / 1000000) (by decide) (by omega) (by omega)
    · split
      · exact hread 6 (nano / 1000) (by decide) (by omega) (by omega)
      · exact hread 9 nano (by decide) hnano (by omega)

/-- The minutes of an offset are read back behind the colon. -/
theorem offsetMinutes?_padded (strict : Bool) (hn : n < 60) :
    offsetMinutes? strict (':' :: padded 2 n) = some (n, []) := by
  have hread : exactNumber? 2 (padded 2 n) = some (n, []) := by
    have := @exactNumber?_padded 2 n [] (by decide) (by omega)
    rwa [List.append_nil] at this
  cases strict with
  | true => exact hread
  | false =>
    obtain ⟨c, cs, hcs, hc⟩ := exists_padded_eq_cons 2 n
    have hstop : (c == ':' || isBlank c) = false := by
      have hcolon : c ≠ ':' := by
        rintro rfl
        exact absurd hc (by decide)
      rw [isBlank_of_isDigit hc, Bool.or_false, beq_eq_false_iff_ne]
      exact hcolon
    have hdrop : (':' :: padded 2 n).dropWhile (fun c => c == ':' || isBlank c) = padded 2 n := by
      rw [hcs, List.dropWhile_cons_of_pos (by decide), List.dropWhile_cons_of_neg (by simp [hstop])]
    unfold offsetMinutes?
    rw [if_neg Bool.false_ne_true, hdrop, hcs]
    show exactNumber? 2 (c :: cs) = _
    rw [← hcs, hread]

/-- An offset without `Z` is its sign, hours and minutes. -/
theorem offset?_sign (strict west : Bool) (cs : List Char) :
    offset? strict ((if west then '-' else '+') :: cs) =
      (exactNumber? 2 cs).bind fun (hours, cs) =>
        (offsetMinutes? strict cs).bind fun (minutes, cs) =>
          if 60 ≤ minutes then none
          else
            let seconds : Int := (hours * 60 + minutes) * 60
            some (if west then -seconds else seconds, cs) := by
  cases strict <;> cases west <;> rfl

/-- An offset of whole minutes is read back. -/
theorem offset?_offsetCharacters (strict : Bool) {offset : Int} (hminutes : 60 ∣ offset)
    (hoffset : -86400 < offset ∧ offset < 86400) :
    offset? strict (offsetCharacters offset) = some (offset, []) := by
  obtain ⟨z, rfl⟩ := hminutes
  have hrounded : ((60 * z).natAbs + 30) / 60 = z.natAbs := by omega
  have hhours : z.natAbs / 60 < 10 ^ 2 := by omega
  have hminute : z.natAbs % 60 < 60 := Nat.mod_lt _ (by decide)
  have hcharacters : offsetCharacters (60 * z) = (if decide (60 * z < 0) then '-' else '+') ::
      (padded 2 (z.natAbs / 60) ++ ':' :: padded 2 (z.natAbs % 60)) := by
    simp only [offsetCharacters, hrounded, decide_eq_true_eq]
    rfl
  rw [hcharacters, offset?_sign, exactNumber?_padded (by decide) hhours, Option.bind_some]
  dsimp only
  rw [offsetMinutes?_padded strict hminute, Option.bind_some]
  dsimp only
  rw [if_neg (by omega)]
  simp only [Option.some.injEq, Prod.mk.injEq, and_true, decide_eq_true_eq]
  split <;> omega

/-! ### Patterns -/

/-- Year, month and day with hyphens. -/
def dayPattern (strict : Bool) : Pattern :=
  [.number strict .year, .oneOf ['-'], .number strict .month, .oneOf ['-'], .number strict .day]

/-- A date is read back. -/
theorem Pattern.read?_day (d : Date) (hstrict : strict = true → IsUnsigned d.year) :
    Pattern.read? r (d.characters ++ rest) (dayPattern strict) =
      some ({ r with year := d.year, month := d.month, day := d.day }, rest) := by
  have hmonth := d.month_mem
  have hday := d.day_mem
  have hlast : daysInMonth d.year d.month ≤ 31 := by
    unfold daysInMonth
    split <;> split <;> omega
  have hhyphen : ∀ cs, HeadNotDigit ('-' :: cs) := by
    rintro cs _ ⟨⟩
    rfl
  simp only [Date.characters, List.append_assoc, List.cons_append]
  rw [dayPattern, Pattern.read?_cons (Item.read?_year d.year hstrict (hhyphen _)),
    Pattern.read?_cons (Item.read?_oneOf (by decide)),
    Pattern.read?_cons (Item.read?_number strict .month (show d.month < 10 ^ 2 by omega) rfl),
    Pattern.read?_cons (Item.read?_oneOf (by decide)),
    Pattern.read?_cons (Item.read?_number strict .day (show d.day < 10 ^ 2 by omega) rfl)]
  rfl

/-- Hour, minute and second with colons, a fraction and an offset. -/
def clockOffsetPattern (strict : Bool) : Pattern :=
  [.number strict .hour, .oneOf [':'], .number strict .minute, .oneOf [':'], .number strict .second,
    .fraction, .offset strict]

/-- The second of a clock as it is written: 60 in a leap second. -/
def writtenSecond (c : Clock) : Nat := c.secondOfMinute + c.nano / 1000000000

/-- A time of day and its offset are read back. -/
theorem Pattern.read?_clock (c : Clock) {offset : Int} (hminutes : 60 ∣ offset)
    (hoffset : -86400 < offset ∧ offset < 86400) (hr : r.nano = 0) :
    Pattern.read? r (c.characters ++ offsetCharacters offset) (clockOffsetPattern strict) =
      some ({ r with
        hour := c.hour, minute := c.minute, second := writtenSecond c,
        nano := c.nano % 1000000000, offset := offset }, []) := by
  have hsecond := c.second_lt
  have hnano := c.nano_lt
  have hhour : c.hour < 10 ^ 2 := by
    unfold Clock.hour
    omega
  have hminute : c.minute < 10 ^ 2 := by
    unfold Clock.minute
    omega
  have hwritten : writtenSecond c < 10 ^ 2 := by
    unfold writtenSecond Clock.secondOfMinute
    omega
  have hhead : HeadNotDigit (offsetCharacters offset) ∧
      (offsetCharacters offset).head? ≠ some '.' := by
    unfold offsetCharacters HeadNotDigit
    split <;> simp
  have hcharacters : c.characters = padded 2 c.hour ++ ':' :: padded 2 c.minute ++
      ':' :: padded 2 (writtenSecond c) ++ fractionCharacters (c.nano % 1000000000) := rfl
  simp only [hcharacters, List.append_assoc, List.cons_append]
  rw [clockOffsetPattern, Pattern.read?_cons (Item.read?_number strict .hour hhour rfl),
    Pattern.read?_cons (Item.read?_oneOf (by decide)),
    Pattern.read?_cons (Item.read?_number strict .minute hminute rfl),
    Pattern.read?_cons (Item.read?_oneOf (by decide)),
    Pattern.read?_cons (Item.read?_number strict .second hwritten rfl),
    Pattern.read?_cons (Item.read?_fraction
      (show (((r.set .hour c.hour).set .minute c.minute).set .second (writtenSecond c)).nano = 0
        from hr) (Nat.mod_lt _ (by decide)) hhead.1 hhead.2)]
  have hread : ∀ r, (Item.offset strict).read? r (offsetCharacters offset) =
      some ({ r with offset := offset }, []) := by
    intro r
    show (offset? strict (offsetCharacters offset)).map _ = _
    rw [offset?_offsetCharacters strict hminutes hoffset]
    rfl
  rw [Pattern.read?_cons (hread _)]
  rfl

/-- What is written between a date and a time, or more loosely any blanks. -/
def separator (strict : Bool) : Item := if strict then .oneOf ['T', 't', ' '] else .blanks

theorem Item.read?_separator (strict : Bool) (h : dropBlanks cs = cs) :
    (separator strict).read? r (' ' :: cs) = some (r, cs) := by
  cases strict with
  | true => rfl
  | false =>
    show some (r, dropBlanks cs) = _
    rw [h]

/-- A date, a time and an offset. -/
def instantPattern (strict : Bool) : Pattern :=
  dayPattern strict ++ separator strict :: clockOffsetPattern strict

/-- The forms in which a timestamp is read back are the first two that are tried. -/
theorem timestampPatterns_eq :
    timestampPatterns =
      instantPattern true :: instantPattern false :: timestampPatterns.drop 2 := rfl

/-! ### What has been read -/

theorem date?_eq {d : Date} (hyear : r.year = d.year) (hmonth : r.month = d.month)
    (hday : r.day = d.day) : r.date? = some d := by
  rw [Reading.date?, hyear, hmonth, hday, Date.of?, dif_pos ⟨d.year_mem, d.month_mem, d.day_mem⟩]

/-- The second 60 stands for a leap second. -/
theorem clock?_eq {c : Clock} (hhour : r.hour = c.hour) (hminute : r.minute = c.minute)
    (hsecond : r.second = writtenSecond c) (hnano : r.nano = c.nano % 1000000000) :
    r.clock? = some c := by
  have hlt := c.second_lt
  have hleap := c.nano_lt
  have hof : Clock.of? c.hour c.minute c.secondOfMinute c.nano = some c := by
    have hseconds : (c.hour * 60 + c.minute) * 60 + c.secondOfMinute = c.second := by
      unfold Clock.hour Clock.minute Clock.secondOfMinute
      omega
    have hvalid : c.hour < 24 ∧ c.minute < 60 ∧ c.secondOfMinute < 60 ∧
        (c.nano < 1000000000 ∨ (c.secondOfMinute = 59 ∧ c.nano < 2000000000)) := by
      unfold Clock.hour Clock.minute Clock.secondOfMinute
      omega
    simp only [Clock.of?, dif_pos hvalid, hseconds]
  have hwritten : r.second = c.second % 60 + c.nano / 1000000000 := hsecond
  rw [Reading.clock?, hhour, hminute, hnano]
  split
  · next h60 =>
    have hfields : 59 = c.secondOfMinute ∧ c.nano % 1000000000 + 1000000000 = c.nano := by
      unfold Clock.secondOfMinute
      omega
    rw [hfields.2, hfields.1, hof]
  · next h60 =>
    have hfields : r.second = c.secondOfMinute ∧ c.nano % 1000000000 = c.nano := by
      unfold Clock.secondOfMinute
      omega
    rw [hfields.1, hfields.2, hof]

/-! ### Texts -/

variable {t : Timestamp}

/-- A timestamp is read back with its fraction and its offset, in the strict form if its year has no
sign. -/
theorem readAs?_characters (hstrict : strict = true → IsUnsigned t.date.year)
    (hminutes : 60 ∣ t.offset) : readAs? (instantPattern strict) t.characters = some t := by
  have hhead : dropBlanks (t.clock.characters ++ offsetCharacters t.offset) =
      t.clock.characters ++ offsetCharacters t.offset := by
    simp only [Clock.characters, List.append_assoc]
    exact dropBlanks_padded ..
  have hread : Pattern.read? {} t.characters (instantPattern strict) = some (
      { year := t.date.year, month := t.date.month, day := t.date.day,
        hour := t.clock.hour, minute := t.clock.minute, second := writtenSecond t.clock,
        nano := t.clock.nano % 1000000000, offset := t.offset }, []) := by
    simp only [Timestamp.characters, List.append_assoc, List.cons_append]
    rw [instantPattern, Pattern.read?_append (Pattern.read?_day t.date hstrict),
      Pattern.read?_cons (Item.read?_separator strict hhead),
      Pattern.read?_clock t.clock hminutes t.offset_mem rfl]
  rw [readAs?, Pattern.match?, hread]
  show Reading.timestamp? _ = _
  rw [Reading.timestamp?, date?_eq rfl rfl rfl, clock?_eq rfl rfl rfl rfl]
  exact dif_pos ⟨t.offset_mem, t.utc_mem⟩

/-- A year with a sign is not read strictly. -/
theorem readAs?_characters_of_signed (h : ¬IsUnsigned t.date.year) :
    readAs? (instantPattern true) t.characters = none := by
  have hhead : ∀ rest, HeadNotDigit (yearCharacters t.date.year ++ rest) := by
    intro rest
    unfold IsUnsigned at h
    unfold yearCharacters HeadNotDigit
    split
    · simp
    · rw [if_pos (by omega)]
      simp
  have hread : Pattern.read? {} t.characters (instantPattern true) = none := by
    simp only [Timestamp.characters, Date.characters, List.append_assoc]
    show ((exactNumber? 4 (yearCharacters t.date.year ++ _)).map _).bind _ = none
    rw [exactNumber?_of_headNotDigit (by decide) (hhead _)]
    rfl
  rw [readAs?, Pattern.match?, hread]
  rfl

end Calendar

open Calendar

/-- The text of a date is read as that date. -/
theorem Date.ofText?_text (d : Date) : Date.ofText? d.text = some d := by
  have htrim : trim d.characters = d.characters := by
    have hback : d.characters =
        yearCharacters d.year ++ ('-' :: padded 2 d.month ++ ['-']) ++ padded 2 d.day := by
      simp [Date.characters]
    rw [hback]
    refine trim_append_padded ?_
    rw [List.append_assoc]
    exact dropBlanks_year ..
  have hread : Pattern.read? {} d.characters datePattern = some
      ({ year := d.year, month := d.month, day := d.day }, []) := by
    have h := @Pattern.read?_day [] {} false d (fun h => (nomatch h))
    rwa [List.append_nil] at h
  rw [Date.ofText?, text, String.toList_ofList, htrim, Pattern.match?, hread]
  exact date?_eq rfl rfl rfl

/-- The text of a timestamp is read as that timestamp, with its offset, if the offset is a whole
number of minutes. -/
theorem Timestamp.ofText?_text {t : Timestamp} (h : 60 ∣ t.offset) :
    Timestamp.ofText? t.text = some t := by
  have htrim : trim t.characters = t.characters := by
    obtain ⟨front, n, hback⟩ : ∃ front n, t.characters =
        yearCharacters t.date.year ++ front ++ padded 2 n := by
      refine ⟨'-' :: padded 2 t.date.month ++ '-' :: padded 2 t.date.day ++
        ' ' :: t.clock.characters ++ [if t.offset < 0 then '-' else '+'] ++
        padded 2 ((t.offset.natAbs + 30) / 60 / 60) ++ [':'], (t.offset.natAbs + 30) / 60 % 60, ?_⟩
      simp [characters, Date.characters, offsetCharacters]
    rw [hback]
    refine trim_append_padded ?_
    rw [List.append_assoc]
    exact dropBlanks_year ..
  rw [Timestamp.ofText?, text, String.toList_ofList, htrim, timestampPatterns_eq]
  by_cases hyear : IsUnsigned t.date.year
  · rw [List.findSome?_cons, readAs?_characters (fun _ => hyear) h]
  · have hloose : readAs? (instantPattern false) t.characters = some t :=
      readAs?_characters (fun hstrict => (nomatch hstrict)) h
    rw [List.findSome?_cons, readAs?_characters_of_signed hyear]
    dsimp only
    rw [List.findSome?_cons, hloose]

end TypedTable
