import Mathlib.Tactic.Ring
import TypedTable.Text.Blank
import TypedTable.Text.Digits
/-!
# Runs of digits

The number of a run of decimal digits is that of its front, moved by the length of its back, plus
that of its back (`value_from`), and a run of `n` digits stands for a number below `10 ^ n`
(`value_lt`). So the first digit is the quotient by a power of ten (`value_cons`).

A number filled up with zeros to a width that it fits in has exactly that many digits
(`length_padded`).
-/

namespace TypedTable.Text

/-- A text of decimal digits only. -/
def AllDigits (cs : List Char) : Prop := ∀ c ∈ cs, c.isDigit = true

instance (cs : List Char) : Decidable (AllDigits cs) :=
  decidable_of_iff (cs.all Char.isDigit = true) List.all_eq_true

theorem allDigits_cons {c : Char} {cs : List Char} :
    AllDigits (c :: cs) ↔ c.isDigit = true ∧ AllDigits cs :=
  List.forall_mem_cons

theorem AllDigits.append {cs ds : List Char} (hcs : AllDigits cs) (hds : AllDigits ds) :
    AllDigits (cs ++ ds) :=
  List.forall_mem_append.2 ⟨hcs, hds⟩

theorem isBlank_of_isDigit {c : Char} (h : c.isDigit = true) : isBlank c = false := by
  simp [Char.isDigit, UInt32.le_iff_toNat_le] at h
  have hnat : c.toNat = c.val.toNat := rfl
  simp [isBlank]
  omega

/-! ### The number of a run -/

/-- The value of a digit is its distance from zero. -/
theorem digit?_of_isDigit {c : Char} (h : c.isDigit = true) :
    digit? c = some (c.toNat - '0'.toNat) := if_pos h

theorem digitValue_lt {c : Char} (h : c.isDigit = true) : c.toNat - '0'.toNat < 10 :=
  digit?_lt (digit?_of_isDigit h)

/-- A run continues the number in front of it. -/
theorem value_from (cs : List Char) (n : Nat) :
    Nat.ofDigitChars 10 cs n = n * 10 ^ cs.length + Nat.ofDigitChars 10 cs 0 := by
  induction cs generalizing n with
  | nil => simp
  | cons c cs ih =>
    rw [Nat.ofDigitChars_cons, ih, Nat.ofDigitChars_cons, ih (10 * 0 + _), List.length_cons]
    ring

theorem value_lt {cs : List Char} (h : AllDigits cs) :
    Nat.ofDigitChars 10 cs 0 < 10 ^ cs.length := by
  induction cs with
  | nil => simp
  | cons c cs ih =>
    obtain ⟨hc, hcs⟩ := allDigits_cons.1 h
    have hdigit : (c.toNat - '0'.toNat) * 10 ^ cs.length ≤ 9 * 10 ^ cs.length :=
      Nat.mul_le_mul_right _ (Nat.le_of_lt_succ (digitValue_lt hc))
    rw [Nat.ofDigitChars_cons, value_from, List.length_cons, Nat.pow_succ, Nat.mul_zero,
      Nat.zero_add]
    have := ih hcs
    omega

/-- A number is not smaller with more digits behind it. -/
theorem le_value_from (cs : List Char) (n : Nat) : n ≤ Nat.ofDigitChars 10 cs n := by
  rw [value_from]
  exact Nat.le_trans (Nat.le_mul_of_pos_right n (Nat.pow_pos (by decide))) (Nat.le_add_right ..)

/-- Dropping the digits of a run divides by a power of ten. -/
theorem value_from_div {cs : List Char} (h : AllDigits cs) (n : Nat) :
    Nat.ofDigitChars 10 cs n / 10 ^ cs.length = n := by
  rw [value_from, Nat.mul_comm, Nat.mul_add_div (Nat.pow_pos (by decide)),
    Nat.div_eq_of_lt (value_lt h), Nat.add_zero]

/-! ### Numbers filled up with zeros -/

theorem allDigits_natural (n : Nat) : AllDigits (natural n) :=
  fun _ hc => Nat.isDigit_of_mem_toDigits (by decide) (by decide) hc

theorem allDigits_padded (width n : Nat) : AllDigits (padded width n) :=
  AllDigits.append (fun c hc => by rw [List.eq_of_mem_replicate hc]; rfl) (allDigits_natural n)

theorem width_le_length_padded (width n : Nat) : width ≤ (padded width n).length := by
  rw [padded, List.length_leftpad]
  exact Nat.le_max_left ..

theorem length_padded {width n : Nat} (hwidth : 0 < width) (hn : n < 10 ^ width) :
    (padded width n).length = width := by
  rw [padded, List.length_leftpad]
  exact Nat.max_eq_left ((Nat.length_toDigits_le_iff (by decide) hwidth).2 hn)

end TypedTable.Text
