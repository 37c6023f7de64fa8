import TypedTable.Proofs.Calendar.Text
/-!
# The order in which the forms of a timestamp are tried

All forms of a timestamp read a text in the same way as far as they read it: `readCommon?` is one
reader that follows each of them, with a sign between day and time that may be left out, and a
fraction and an offset that may be left out. A fixed number is read as a loose one is
(`Item.Refines`), and so is a strict offset.

A text that two forms read is therefore read by both as the same timestamp, and the forms may be
tried in any order (`timestampPatterns_anyOrder`).
-/

namespace TypedTable.Calendar

open Text

variable {r r' : Reading} {cs rest : List Char} {p q : Pattern} {width n : Nat}

/-! ### Fixed numbers and loose ones -/

/-- A number begins with a digit. -/
theorem exists_cons_of_number? (h : number? width cs = some (n, rest)) :
    ∃ c ds, cs = c :: ds ∧ c.isDigit = true := by
  have hne : ¬HeadNotDigit cs := by
    intro hhead
    have hsplit := @splitDigits_append width [] cs (fun _ h => absurd h List.not_mem_nil)
      (.inr ⟨Nat.zero_le _, hhead⟩)
    rw [List.nil_append] at hsplit
    rw [number?, hsplit] at h
    cases h
  cases cs with
  | nil => exact absurd (by rintro c ⟨⟩) hne
  | cons c ds =>
    refine ⟨c, ds, rfl, ?_⟩
    by_contra hc
    refine hne ?_
    rintro d ⟨⟩
    exact Bool.eq_false_iff.2 hc

/-- A number with all its digits is one with at most as many. -/
theorem number?_of_exactNumber? (hwidth : 0 < width) (h : exactNumber? width cs = some (n, rest)) :
    number? width cs = some (n, rest) := by
  unfold exactNumber? at h
  unfold number?
  dsimp only at h ⊢
  split at h
  · next hlength =>
    have hne : ¬(splitDigits width cs).1.isEmpty = true := by
      rw [List.isEmpty_iff_length_eq_zero]
      omega
    rw [if_neg hne]
    exact h
  · exact (nomatch h)

/-- Whether an item reads what another one reads, in the same way. -/
def Item.Refines (i j : Item) : Prop := ∀ r cs x, i.read? r cs = some x → j.read? r cs = some x

theorem Item.Refines.refl (i : Item) : i.Refines i := fun _ _ _ h => h

/-- A number with all its digits is read loosely as well. -/
theorem Item.Refines.loose (part : Part) : (Item.fixed part).Refines (.loose part) := by
  intro r cs x h
  have hwidth : 0 < part.width := by cases part <;> decide
  obtain ⟨⟨n, rest⟩, hn, rfl⟩ := Option.map_eq_some_iff.1 h
  have hnumber := number?_of_exactNumber? hwidth hn
  obtain ⟨c, ds, rfl, hc⟩ := exists_cons_of_number? hnumber
  show (looseNumber? part (dropBlanks (c :: ds))).map _ = _
  rw [dropBlanks_cons_of_not_blank ds (isBlank_of_isDigit hc), looseNumber?_of_isDigit part ds hc,
    hnumber]
  rfl

theorem offsetMinutes?_of_strict (h : offsetMinutes? true cs = some (n, rest)) :
    offsetMinutes? false cs = some (n, rest) := by
  unfold offsetMinutes? at h
  rw [if_pos rfl] at h
  split at h
  · next minutes =>
    obtain ⟨c, ds, rfl, hc⟩ := exists_cons_of_number? (number?_of_exactNumber? (by decide) h)
    have hcolon : c ≠ ':' := by
      rintro rfl
      exact (nomatch hc)
    have hdrop : (':' :: c :: ds).dropWhile (fun c => c == ':' || isBlank c) = c :: ds := by
      rw [List.dropWhile_cons_of_pos (by decide),
        List.dropWhile_cons_of_neg (by simp [hcolon, isBlank_of_isDigit hc])]
    unfold offsetMinutes?
    rw [if_neg Bool.false_ne_true, hdrop]
    exact h
  · exact (nomatch h)

/-- What begins with a blank is no strict offset. -/
theorem dropBlanks_of_strict {offset : Int} (h : offset? true cs = some (offset, rest)) :
    dropBlanks cs = cs := by
  cases cs with
  | nil => rfl
  | cons c cs =>
    refine dropBlanks_cons_of_not_blank cs (Bool.eq_false_iff.2 fun hc => ?_)
    have hne : ∀ d, isBlank d = false → c ≠ d := by
      rintro d hd rfl
      exact (nomatch hc.symm.trans hd)
    simp [offset?, sign?, hne 'Z' (by decide), hne 'z' (by decide), hne '+' (by decide),
      hne '-' (by decide), hne '\u2212' (by decide)] at h

/-- A strict offset is read loosely as well. -/
theorem Item.Refines.offset : (Item.offset true).Refines (.offset false) := by
  intro r cs x h
  obtain ⟨⟨offset, rest⟩, hoffset, rfl⟩ := Option.map_eq_some_iff.1 h
  refine Option.map_eq_some_iff.2 ⟨(offset, rest), ?_, rfl⟩
  have hblanks := dropBlanks_of_strict hoffset
  unfold offset? at hoffset ⊢
  rw [if_pos rfl] at hoffset
  rw [if_neg Bool.false_ne_true, hblanks]
  split at hoffset
  · exact hoffset
  · exact hoffset
  · obtain ⟨⟨west, cs⟩, hsign, hoffset⟩ := Option.bind_eq_some_iff.1 hoffset
    obtain ⟨⟨hours, cs⟩, hhours, hoffset⟩ := Option.bind_eq_some_iff.1 hoffset
    obtain ⟨⟨minutes, cs⟩, hminutes, hoffset⟩ := Option.bind_eq_some_iff.1 hoffset
    refine Option.bind_eq_some_iff.2 ⟨_, hsign, Option.bind_eq_some_iff.2 ⟨_, hhours,
      Option.bind_eq_some_iff.2 ⟨_, offsetMinutes?_of_strict hminutes, hoffset⟩⟩⟩

/-! ### Patterns -/

/-- Whether a pattern reads what another one reads, in the same way. -/
def Pattern.Refines (p q : Pattern) : Prop :=
  ∀ r cs x, Pattern.read? r cs p = some x → Pattern.read? r cs q = some x

/-- A pattern refines another one if its items do, one by one. -/
theorem Pattern.refines_of_forall₂ (h : List.Forall₂ Item.Refines p q) : Pattern.Refines p q := by
  induction h with
  | nil => exact fun _ _ _ hread => hread
  | cons hitem _ ih =>
    intro r cs x hread
    obtain ⟨⟨r', rest⟩, hfirst, hread⟩ := Option.bind_eq_some_iff.1 hread
    exact Option.bind_eq_some_iff.2 ⟨_, hitem _ _ _ hfirst, ih _ _ _ hread⟩

theorem Pattern.read?_append_eq_some {x : Reading × List Char} :
    Pattern.read? r cs (p ++ q) = some x ↔
      ∃ r' rest, Pattern.read? r cs p = some (r', rest) ∧ Pattern.read? r' rest q = some x := by
  induction p generalizing r cs with
  | nil => simp [Pattern.read?]
  | cons item p ih =>
    simp only [List.cons_append, Pattern.read?, Option.bind_eq_some_iff, ih]
    constructor
    · rintro ⟨y, hitem, r', rest, hp, hq⟩
      exact ⟨r', rest, ⟨y, hitem, hp⟩, hq⟩
    · rintro ⟨r', rest, ⟨y, hitem, hp⟩, hq⟩
      exact ⟨y, hitem, r', rest, hp, hq⟩

theorem Pattern.match?_eq_some :
    Pattern.match? p cs = some r ↔ Pattern.read? {} cs p = some (r, []) := by
  unfold match?
  split
  · next hread =>
    rw [hread]
    simp
  · next hread =>
    refine iff_of_false (fun h => (nomatch h)) fun h => hread _ h

/-- Year, month and day with all their digits. -/
def strictDatePattern : Pattern :=
  [.fixed .year, .oneOf ['-'], .fixed .month, .oneOf ['-'], .fixed .day]

/-- Hour, minute and second with all their digits. -/
def strictClockPattern : Pattern :=
  [.fixed .hour, .oneOf [':'], .fixed .minute, .oneOf [':'], .fixed .second]

theorem refines_date : Pattern.Refines strictDatePattern datePattern :=
  Pattern.refines_of_forall₂ (.cons (.loose _) (.cons (.refl _) (.cons (.loose _)
    (.cons (.refl _) (.cons (.loose _) .nil)))))

theorem refines_clock : Pattern.Refines strictClockPattern clockPattern :=
  Pattern.refines_of_forall₂ (.cons (.loose _) (.cons (.refl _) (.cons (.loose _)
    (.cons (.refl _) (.cons (.loose _) .nil)))))

/-! ### One reader for all forms -/

/-- What is behind the letter between a day and a time, if there is one. -/
def dropLetter : List Char → List Char
  | 'T' :: rest | 't' :: rest => rest
  | rest => rest

/-- Reads a fraction and an offset, both of which may be left out. -/
def readTail? (r : Reading) (cs : List Char) : Option Reading :=
  (Item.fraction.read? r cs).bind fun (r, cs) =>
    if cs = [] then some r else (Pattern.read? r cs [.offset false]).bind fun (r, cs) =>
      if cs = [] then some r else none

/-- Reads a day, and behind it a time with what may follow it, which may be left out. -/
def readCommon? (cs : List Char) : Option Reading :=
  (Pattern.read? {} cs datePattern).bind fun (r, cs) =>
    if cs = [] then some r
    else (Pattern.read? r (dropLetter cs) clockPattern).bind fun (r, cs) => readTail? r cs

/-- Whether an item is one that may stand between a day and a time. -/
def IsSeparator (item : Item) : Prop :=
  item = .blanks ∨ ∃ choices, item = .oneOf choices ∧ ∀ c ∈ choices, c = 'T' ∨ c = 't' ∨ c = ' '

theorem dropBlanks_dropBlanks (cs : List Char) : dropBlanks (dropBlanks cs) = dropBlanks cs := by
  induction cs with
  | nil => rfl
  | cons c cs ih =>
    cases hc : isBlank c with
    | true =>
      have hdrop : dropBlanks (c :: cs) = dropBlanks cs := List.dropWhile_cons_of_pos hc
      rw [hdrop, ih]
    | false => rw [dropBlanks_cons_of_not_blank cs hc, dropBlanks_cons_of_not_blank cs hc]

/-- A time may have blanks in front of it. -/
theorem read?_clock_dropBlanks (r : Reading) (cs : List Char) :
    Pattern.read? r (dropBlanks cs) clockPattern = Pattern.read? r cs clockPattern := by
  have hhour : (Item.loose .hour).read? r (dropBlanks cs) = (Item.loose .hour).read? r cs := by
    simp only [Item.read?, dropBlanks_dropBlanks]
  rw [clockPattern, Pattern.read?, Pattern.read?, hhour]

/-- Behind its blanks, a time begins with a digit. -/
theorem exists_digit_of_clock {x : Reading × List Char}
    (h : Pattern.read? r cs clockPattern = some x) :
    ∃ c rest, dropBlanks cs = c :: rest ∧ c.isDigit = true := by
  obtain ⟨_, hhour, -⟩ := Option.bind_eq_some_iff.1 h
  obtain ⟨_, hloose, -⟩ := Option.map_eq_some_iff.1 hhour
  obtain ⟨_, hnumber, -⟩ := Option.map_eq_some_iff.1 hloose
  exact exists_cons_of_number? hnumber

theorem dropLetter_of_blanks {x : Reading × List Char}
    (h : Pattern.read? r cs clockPattern = some x) : dropLetter cs = cs := by
  obtain ⟨c, rest, hcs, hc⟩ := exists_digit_of_clock h
  unfold dropLetter
  split
  · cases hcs
    exact (nomatch hc)
  · cases hcs
    exact (nomatch hc)
  · rfl

theorem Item.exists_of_read?_oneOf {choices : List Char}
    (h : (Item.oneOf choices).read? r cs = some (r', rest)) :
    r' = r ∧ ∃ c ∈ choices, cs = c :: rest := by
  cases cs with
  | nil => exact (nomatch h)
  | cons c cs =>
    have hif : (if choices.contains c then some (r, cs) else none) = some (r', rest) := h
    split at hif
    · next hc =>
      cases hif
      exact ⟨rfl, c, List.contains_iff_mem.1 hc, rfl⟩
    · exact (nomatch hif)

/-- What stands between a day and a time is a letter, or blanks that the hour skips. -/
theorem read?_dropLetter {item : Item} (hitem : IsSeparator item) {x : Reading × List Char}
    (h : Pattern.read? r cs (item :: clockPattern) = some x) :
    cs ≠ [] ∧ Pattern.read? r (dropLetter cs) clockPattern = some x := by
  obtain ⟨⟨r', rest⟩, hread, hclock⟩ := Option.bind_eq_some_iff.1 h
  dsimp only at hclock
  rcases hitem with rfl | ⟨choices, rfl, hchoices⟩
  · cases hread
    rw [read?_clock_dropBlanks] at hclock
    refine ⟨?_, by rw [dropLetter_of_blanks hclock, hclock]⟩
    rintro rfl
    exact (nomatch hclock)
  · obtain ⟨rfl, c, hc, rfl⟩ := Item.exists_of_read?_oneOf hread
    refine ⟨List.cons_ne_nil _ _, ?_⟩
    rcases hchoices c hc with rfl | rfl | rfl
    · exact hclock
    · exact hclock
    · rw [← read?_clock_dropBlanks] at hclock ⊢
      exact hclock

/-- An offset does not begin with a point, and is not empty. -/
theorem head_of_offset {strict : Bool} {x : Reading × List Char}
    (h : (Item.offset strict).read? r cs = some x) : cs ≠ [] ∧ cs.head? ≠ some '.' := by
  have hloose : (Item.offset false).read? r cs = some x := by
    cases strict with
    | true => exact Item.Refines.offset _ _ _ h
    | false => exact h
  constructor
  · rintro rfl
    exact (nomatch hloose)
  · intro hhead
    cases cs with
    | nil => exact (nomatch hhead)
    | cons c cs =>
      cases hhead
      exact (nomatch hloose)

/-- What may follow a time without a fraction. -/
inductive IsEnd : Pattern → Prop
  | nothing : IsEnd []
  | offset (strict : Bool) : IsEnd [.offset strict]

theorem head_of_isEnd (hp : IsEnd p) {x : Reading} (h : Pattern.read? r cs p = some (x, [])) :
    cs.head? ≠ some '.' := by
  cases hp with
  | nothing =>
    cases h
    exact fun h => (nomatch h)
  | offset strict =>
    obtain ⟨_, hread, -⟩ := Option.bind_eq_some_iff.1 h
    exact (head_of_offset hread).2

/-- Where a fraction may stand and there is none, nothing is read. -/
theorem read?_fraction_cons (hp : IsEnd p) (h : Pattern.read? r cs p = some (r', [])) :
    Pattern.read? r cs (.fraction :: p) = some (r', []) := by
  rw [Pattern.read?_cons (Item.read?_fraction_of_head (head_of_isEnd hp h))]
  exact h

theorem readTail?_eq_some (hp : IsEnd p)
    (h : Pattern.read? r cs (.fraction :: p) = some (r', [])) : readTail? r cs = some r' := by
  obtain ⟨⟨r₁, rest₁⟩, hfraction, hend⟩ := Option.bind_eq_some_iff.1 h
  dsimp only at hend
  rw [readTail?, hfraction, Option.bind_some]
  dsimp only
  cases hp with
  | nothing =>
    cases hend
    exact if_pos rfl
  | offset strict =>
    obtain ⟨⟨r₂, rest₂⟩, hoffset, hnil⟩ := Option.bind_eq_some_iff.1 hend
    cases hnil
    rw [if_neg (head_of_offset hoffset).1]
    have hloose : Pattern.read? r₁ rest₁ [.offset false] = some (r', []) := by
      cases strict with
      | true => exact Pattern.read?_cons (Item.Refines.offset _ _ _ hoffset)
      | false => exact hend
    rw [hloose, Option.bind_some]
    exact if_pos rfl

/-- A day and a time with what follows it are read as one reader reads them. -/
theorem readCommon?_eq_some {day clock : Pattern} {item : Item}
    (hday : Pattern.Refines day datePattern) (hitem : IsSeparator item)
    (hclock : Pattern.Refines clock clockPattern) (hp : IsEnd p)
    (h : Pattern.match? (day ++ item :: clock ++ .fraction :: p) cs = some r) :
    readCommon? cs = some r := by
  rw [Pattern.match?_eq_some, Pattern.read?_append_eq_some] at h
  obtain ⟨r₂, rest₂, h, htail⟩ := h
  obtain ⟨r₁, rest₁, hdate, htime⟩ := Pattern.read?_append_eq_some.1 h
  have hloose : Pattern.read? r₁ rest₁ (item :: clockPattern) = some (r₂, rest₂) := by
    obtain ⟨_, hread, htime⟩ := Option.bind_eq_some_iff.1 htime
    exact Option.bind_eq_some_iff.2 ⟨_, hread, hclock _ _ _ htime⟩
  obtain ⟨hne, htime⟩ := read?_dropLetter hitem hloose
  rw [readCommon?, hday _ _ _ hdate, Option.bind_some]
  dsimp only
  rw [if_neg hne, htime, Option.bind_some]
  exact readTail?_eq_some hp htail

/-- A time with its fraction left out is read by the form that may have one. -/
theorem match?_fraction (front : Pattern) (hp : IsEnd p)
    (h : Pattern.match? (front ++ p) cs = some r) :
    Pattern.match? (front ++ .fraction :: p) cs = some r := by
  rw [Pattern.match?_eq_some, Pattern.read?_append_eq_some] at h ⊢
  obtain ⟨r₁, rest₁, hfront, hend⟩ := h
  exact ⟨r₁, rest₁, hfront, read?_fraction_cons hp hend⟩

theorem readCommon?_of_date (h : Pattern.match? datePattern cs = some r) :
    readCommon? cs = some r := by
  rw [readCommon?, Pattern.match?_eq_some.1 h, Option.bind_some]
  exact if_pos rfl

/-- Every form reads a text as the one reader does. -/
theorem readCommon?_of_mem (hp : p ∈ timestampPatterns) (h : p.match? cs = some r) :
    readCommon? cs = some r := by
  have hblanks : IsSeparator .blanks := .inl rfl
  have hletter : IsSeparator (.oneOf ['T']) := .inr ⟨_, rfl, by simp⟩
  have hboth : IsSeparator (.oneOf ['T', 't', ' ']) := .inr ⟨_, rfl, by simp⟩
  have hdate : Pattern.Refines datePattern datePattern := fun _ _ _ h => h
  have hclock : Pattern.Refines clockPattern clockPattern := fun _ _ _ h => h
  simp only [timestampPatterns, List.mem_cons, List.not_mem_nil, or_false] at hp
  rcases hp with rfl | rfl | rfl | rfl | rfl | rfl | rfl | rfl
  · exact readCommon?_eq_some refines_date hboth refines_clock (.offset true) h
  · exact readCommon?_eq_some hdate hblanks hclock (.offset false) h
  · exact readCommon?_eq_some hdate hblanks hclock (.offset false)
      (match?_fraction (datePattern ++ .blanks :: clockPattern) (.offset false) h)
  · exact readCommon?_eq_some hdate hletter hclock .nothing h
  · exact readCommon?_eq_some hdate hblanks hclock .nothing h
  · refine readCommon?_eq_some hdate hletter hclock .nothing (match?_fraction _ .nothing ?_)
    rwa [List.append_nil]
  · refine readCommon?_eq_some hdate hblanks hclock .nothing (match?_fraction _ .nothing ?_)
    rwa [List.append_nil]
  · exact readCommon?_of_date h

/-- A form reads all that it reads when its fraction is left out. -/
theorem match?_of_erase (hp : p ∈ timestampPatterns)
    (h : Pattern.match? (p.erase .fraction) cs = some r) : p.match? cs = some r := by
  simp only [timestampPatterns, List.mem_cons, List.not_mem_nil, or_false] at hp
  rcases hp with rfl | rfl | rfl | rfl | rfl | rfl | rfl | rfl
  · exact match?_fraction (strictDatePattern ++ .oneOf ['T', 't', ' '] ::
      strictClockPattern) (.offset true) h
  · exact match?_fraction (datePattern ++ .blanks :: clockPattern) (.offset false) h
  · exact h
  · exact match?_fraction (datePattern ++ .oneOf ['T'] :: clockPattern) .nothing h
  · exact match?_fraction (datePattern ++ .blanks :: clockPattern) .nothing h
  · exact h
  · exact h
  · exact h

/-! ### Timestamps -/

variable {t u : Timestamp}

theorem readAs?_eq_common (hp : p ∈ timestampPatterns) (h : readAs? p cs = some t) :
    (readCommon? cs).bind Reading.timestamp? = some t := by
  obtain ⟨r, hmatch, htimestamp⟩ := Option.bind_eq_some_iff.1 h
  rw [readCommon?_of_mem hp hmatch]
  exact htimestamp

/-- Two forms that read a text read the same timestamp. -/
theorem readAs?_agree (hp : p ∈ timestampPatterns) (hq : q ∈ timestampPatterns)
    (ht : readAs? p cs = some t) (hu : readAs? q cs = some u) : t = u :=
  Option.some.inj ((readAs?_eq_common hp ht).symm.trans (readAs?_eq_common hq hu))

/-- The first form that gives a timestamp gives the same one in every order. -/
theorem findSome?_readAs?_perm {ps : List Pattern} (h : ps.Perm timestampPatterns)
    (cs : List Char) :
    ps.findSome? (readAs? · cs) = timestampPatterns.findSome? (readAs? · cs) := by
  cases hall : timestampPatterns.findSome? (readAs? · cs) with
  | none =>
    rw [List.findSome?_eq_none_iff] at hall ⊢
    exact fun p hp => hall p (h.mem_iff.1 hp)
  | some t =>
    obtain ⟨p, hp, ht⟩ := List.exists_of_findSome?_eq_some hall
    cases hps : ps.findSome? (readAs? · cs) with
    | none =>
      have hnone := List.findSome?_eq_none_iff.1 hps p (h.mem_iff.2 hp)
      exact (nomatch hnone.symm.trans ht)
    | some u =>
      obtain ⟨q, hq, hu⟩ := List.exists_of_findSome?_eq_some hps
      rw [readAs?_agree (h.mem_iff.1 hq) hp hu ht]

/-- The forms of a timestamp may be tried in any order.

* Two forms that read a text read the same local time with the same offset.
* The reader of timestamps gives the same answer for every order of the forms.
* What a form reads with its fraction left out it reads as well. -/
theorem timestampPatterns_anyOrder (s : String) :
    (∀ p ∈ timestampPatterns, ∀ q ∈ timestampPatterns, ∀ t u : Timestamp,
      readAs? p s.toList = some t → readAs? q s.toList = some u → t = u) ∧
    (∀ ps : List Pattern, ps.Perm timestampPatterns →
      ps.findSome? (readAs? · (trim s.toList)) = Timestamp.ofText? s) ∧
    (∀ p ∈ timestampPatterns, ∀ t : Timestamp,
      readAs? (p.erase .fraction) s.toList = some t → readAs? p s.toList = some t) := by
  refine ⟨fun p hp q hq t u ht hu => readAs?_agree hp hq ht hu,
    fun ps hps => findSome?_readAs?_perm hps _, fun p hp t ht => ?_⟩
  obtain ⟨r, hmatch, htimestamp⟩ := Option.bind_eq_some_iff.1 ht
  exact Option.bind_eq_some_iff.2 ⟨r, match?_of_erase hp hmatch, htimestamp⟩

/-! ### A text of several forms -/

namespace Overlap

/-- A leap second in UTC, which three forms read. -/
def text : String := "2016-12-31 23:59:60Z"

/-- The strict form and the loose ones with and without a fraction read the same leap second, and
the last of them is the first to read it if the forms are tried backwards. -/
theorem anyOrder_leapSecond : ∃ t : Timestamp,
    readAs? strictPattern text.toList = some t ∧
    readAs? (instantPattern false) text.toList = some t ∧
    readAs? ((instantPattern false).erase .fraction) text.toList = some t ∧
    timestampPatterns.reverse.findSome? (readAs? · (trim text.toList)) = some t := by
  obtain ⟨hagree, horder, hfraction⟩ := timestampPatterns_anyOrder text
  have hstrict : (readAs? strictPattern text.toList).isSome = true := by decide
  have hloose : (readAs? ((instantPattern false).erase .fraction) text.toList).isSome = true := by
    decide
  obtain ⟨t, ht⟩ := Option.isSome_iff_exists.1 hstrict
  obtain ⟨u, hu⟩ := Option.isSome_iff_exists.1 hloose
  have hu' := hfraction (instantPattern false) (by decide) u hu
  obtain rfl : t = u := hagree _ (by decide) _ (by decide) t u ht hu'
  have htrim : trim text.toList = text.toList := by decide
  refine ⟨t, ht, hu', hu, (horder _ (List.reverse_perm _)).trans ?_⟩
  rw [Timestamp.ofText?, htrim, timestampPatterns, List.findSome?_cons, ht]

end Overlap

end TypedTable.Calendar
