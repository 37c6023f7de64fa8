/-!
# Decimal digits

Numbers as runs of the ten digits `0` to `9`: `natural n` is the shortest run for `n`, `padded w n`
the run brought to at least `w` digits by leading zeros, and `digit? c` the value of one character.
A run is read back by `Nat.ofDigitChars 10`.

`count` reads a whole text as a number that may carry a plus sign and must stay below a limit.

`value_padded` says that leading zeros do not change the number a run stands for, and
`run?_naturalText` that a number is read back from its digits.
-/

namespace TypedTable.Text

/-- The value of a decimal digit. Only the ASCII digits count. -/
def digit? (c : Char) : Option Nat :=
  if c.isDigit then some (c.toNat - '0'.toNat) else none

theorem digit?_lt {c : Char} {d : Nat} (h : digit? c = some d) : d < 10 := by
  unfold digit? at h
  split at h
  · rename_i hc
    simp [Char.isDigit, UInt32.le_iff_toNat_le] at hc h
    have : c.toNat = c.val.toNat := rfl
    omega
  · simp at h

/-- The digits of `n`, with no leading zero. -/
def natural (n : Nat) : List Char := Nat.toDigits 10 n

/-- The digits of `n`, filled up with leading zeros to at least `width` digits. -/
def padded (width n : Nat) : List Char := (natural n).leftpad width '0'

/-- The digits of `n` as a text. -/
def naturalText (n : Nat) : String := String.ofList (natural n)

/-- The digits of `n` after a minus sign if it is negative. -/
def integer (n : Int) : List Char := if n < 0 then '-' :: natural n.natAbs else natural n.natAbs

/-- `integer` as a text. -/
def integerText (n : Int) : String := String.ofList (integer n)

/-- The number that a run of digits stands for, if the text is one digit or more and nothing
else. -/
def run? (cs : List Char) : Option Nat :=
  if !cs.isEmpty && cs.all Char.isDigit then some (Nat.ofDigitChars 10 cs 0) else none

/-- A number below `limit` written with digits only, after at most one plus sign. -/
def count? (limit : Nat) (cs : List Char) : Option Nat :=
  let digits := match cs with
    | '+' :: rest => rest
    | _ => cs
  (run? digits).filter (· < limit)

/-- Leading zeros do not change the number. -/
theorem value_padded (width n : Nat) : Nat.ofDigitChars 10 (padded width n) 0 = n := by
  simp [padded, natural, List.leftpad, Nat.ofDigitChars_append, Nat.ofDigitChars_ten_toDigits]

/-- The digits of a number are read back as the number. -/
theorem run?_naturalText (n : Nat) : run? (naturalText n).toList = some n := by
  have hne : ¬(natural n).isEmpty = true := by simp [natural, Nat.toDigits_ne_nil]
  have hdigits : (natural n).all Char.isDigit = true := List.all_eq_true.2 fun c hc =>
    Nat.isDigit_of_mem_toDigits (by decide) (by decide) hc
  rw [naturalText, String.toList_ofList, run?, if_pos (by simp [hne, hdigits]), natural,
    Nat.ofDigitChars_ten_toDigits]

end TypedTable.Text
