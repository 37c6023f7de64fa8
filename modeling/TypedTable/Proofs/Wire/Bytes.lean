import Mathlib.Data.List.Basic
import TypedTable.Wire.Bytes
/-!
# Numbers are known by their bytes

Numbers that fit into a width have different bytes in it: `bigEndian_inj` for natural numbers and
`signedBigEndian_inj` for two's complement. Lists of numbers of one width can be read off the bytes
that they are strung together to (`flatMap_bigEndian_inj`).
-/

namespace TypedTable.Wire

/-- Natural numbers that fit have bytes of their own. -/
theorem bigEndian_inj {width n m : Nat} (hn : n < Nat.pow 256 width) (hm : m < Nat.pow 256 width)
    (h : bigEndian width n = bigEndian width m) : n = m := by
  have hread := congrArg unsigned h
  rwa [unsigned_bigEndian, unsigned_bigEndian, Nat.mod_eq_of_lt hn, Nat.mod_eq_of_lt hm] at hread

/-- Signed numbers that fit have bytes of their own. -/
theorem signedBigEndian_inj {width : Nat} (bound : Nat) (hbound : Nat.pow 256 width = 2 * bound)
    {n m : Int} (hn : -(bound : Int) ≤ n ∧ n < bound) (hm : -(bound : Int) ≤ m ∧ m < bound)
    (h : signedBigEndian width n = signedBigEndian width m) : n = m := by
  have hne : (Nat.pow 256 width : Int) ≠ 0 := by omega
  have hn₀ := Int.emod_nonneg n hne
  have hm₀ := Int.emod_nonneg m hne
  have hn₁ := Int.emod_lt_of_pos n (show (0 : Int) < Nat.pow 256 width by omega)
  have hm₁ := Int.emod_lt_of_pos m (show (0 : Int) < Nat.pow 256 width by omega)
  have hbytes := bigEndian_inj (by omega) (by omega) h
  -- Both numbers leave the same remainder, and they are less than the divisor apart.
  have hdvd : (Nat.pow 256 width : Int) ∣ n - m :=
    Int.dvd_of_emod_eq_zero (Int.emod_eq_emod_iff_emod_sub_eq_zero.1 (by omega))
  have hzero := Int.eq_zero_of_dvd_of_natAbs_lt_natAbs hdvd (by omega)
  omega

/-- Lists of numbers can be read off their bytes. -/
theorem flatMap_bigEndian_inj {width : Nat} {l r : List Nat} (hlength : l.length = r.length)
    (hl : ∀ n ∈ l, n < Nat.pow 256 width) (hr : ∀ n ∈ r, n < Nat.pow 256 width)
    (h : l.flatMap (bigEndian width) = r.flatMap (bigEndian width)) : l = r := by
  induction l generalizing r with
  | nil => exact (List.length_eq_zero_iff.1 hlength.symm).symm
  | cons n l ih =>
    obtain _ | ⟨m, r⟩ := r
    · cases hlength
    · obtain ⟨hn, hl⟩ := List.forall_mem_cons.1 hl
      obtain ⟨hm, hr⟩ := List.forall_mem_cons.1 hr
      rw [List.flatMap_cons, List.flatMap_cons] at h
      obtain ⟨hfirst, hrest⟩ := List.append_inj h (by simp)
      rw [bigEndian_inj hn hm hfirst, ih (Nat.succ.inj hlength) hl hr hrest]

end TypedTable.Wire
