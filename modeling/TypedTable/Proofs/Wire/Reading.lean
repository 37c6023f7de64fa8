import TypedTable.Proofs.Wire.Numeric
import TypedTable.Wire.Cell
/-!
# Bytes are read back

A number in two's complement, a text and a list of words are read back from their bytes
(`signed_signedBigEndian`, `ofUtf8?_utf8`, `words?_flatMap`), the words also if more follows. So the
groups of a decimal are read back as they are (`Groups.decode?_encode`), if their parts fit.
-/

namespace TypedTable.Wire

/-! ### Numbers and texts -/

/-- A signed number that fits is read back. -/
theorem signed_signedBigEndian {width : Nat} (bound : Nat) (hbound : Nat.pow 256 width = 2 * bound)
    {n : Int} (hn : -(bound : Int) ≤ n ∧ n < bound) : signed (signedBigEndian width n) = n := by
  have hne : (Nat.pow 256 width : Int) ≠ 0 := by omega
  have hnonneg := Int.emod_nonneg n hne
  have hlt := Int.emod_lt_of_pos n (show (0 : Int) < Nat.pow 256 width by omega)
  have hread : unsigned (signedBigEndian width n) = (n % (Nat.pow 256 width : Int)).toNat := by
    rw [signedBigEndian, unsigned_bigEndian]
    exact Nat.mod_eq_of_lt (by omega)
  have hlength : (signedBigEndian width n).length = width := length_bigEndian _ _
  unfold signed
  dsimp only
  rw [hread, hlength, hbound]
  rw [hbound] at hnonneg hlt
  -- A negative number is written as what it is short of the next power.
  have hmod : n % ((2 * bound : Nat) : Int) = if 0 ≤ n then n else n + (2 * bound : Nat) := by
    split
    · exact Int.emod_eq_of_lt (by omega) (by omega)
    · rw [← Int.add_emod_right]
      exact Int.emod_eq_of_lt (by omega) (by omega)
  split at hmod <;> split <;> omega

/-- A text is read back from its bytes. -/
theorem ofUtf8?_utf8 (s : String) : ofUtf8? (utf8 s) = some s := by
  unfold ofUtf8? utf8
  rw [Array.toArray_toList]
  show String.fromUTF8? s.toUTF8 = some s
  unfold String.fromUTF8?
  rw [String.toUTF8_eq_toByteArray, dif_pos s.isValidUTF8]
  rfl

/-! ### Words -/

/-- A word is read from the front, and the rest stays. -/
theorem word?_bigEndian {n : Nat} (hn : n < 65536) (rest : Bytes) :
    word? (bigEndian 2 n ++ rest) = some (n, rest) := by
  have hread : unsigned (bigEndian 2 n) = n := by
    rw [unsigned_bigEndian]
    exact Nat.mod_eq_of_lt hn
  show some (unsigned (bigEndian 2 n), rest) = some (n, rest)
  rw [hread]

/-- A list of words is read from the front. -/
theorem words?_flatMap {l : List Nat} (hl : ∀ n ∈ l, n < 65536) (rest : Bytes) :
    words? l.length (l.flatMap (bigEndian 2) ++ rest) = some l := by
  induction l with
  | nil => rfl
  | cons n l ih =>
    obtain ⟨hn, hl⟩ := List.forall_mem_cons.1 hl
    rw [List.length_cons, List.flatMap_cons, List.append_assoc, words?, word?_bigEndian hn]
    show (words? l.length (l.flatMap (bigEndian 2) ++ rest)).bind (fun ws => some (n :: ws)) = _
    rw [ih hl]
    rfl

namespace Groups

/-- The word of a weight says the weight. -/
theorem weight_eq {w : Int} (hw : -32768 ≤ w ∧ w < 32768) :
    (if (w % 65536).toNat < 0x8000 then ((w % 65536).toNat : Int)
      else (w % 65536).toNat - 0x10000) = w := by
  split <;> omega

/-- Groups whose parts fit are read back from their bytes. -/
theorem decode?_encode {g : Groups} (hg : g.Fits) : decode? g.encode = some g := by
  have hsign : (if g.negative then negativeMark else 0) < 65536 := by
    split <;> decide
  have hbytes : g.encode = bigEndian 2 g.digits.length ++
      (bigEndian 2 (g.weight % 65536).toNat ++
        (bigEndian 2 (if g.negative then negativeMark else 0) ++
          (bigEndian 2 g.scale ++ (g.digits.flatMap (bigEndian 2) ++ [])))) := by
    unfold encode signedBigEndian
    simp only [List.append_assoc, List.append_nil]
    rfl
  have hweight : (g.weight % 65536).toNat < 65536 := by omega
  rw [hbytes, decode?]
  simp only [Option.bind_eq_bind]
  refine Option.bind_eq_some_iff.2 ⟨_, word?_bigEndian hg.count _, ?_⟩
  refine Option.bind_eq_some_iff.2 ⟨_, word?_bigEndian hweight _, ?_⟩
  refine Option.bind_eq_some_iff.2 ⟨_, word?_bigEndian hsign _, ?_⟩
  refine Option.bind_eq_some_iff.2 ⟨_, word?_bigEndian hg.scale _, ?_⟩
  refine Option.bind_eq_some_iff.2 ⟨_, words?_flatMap hg.digits _, ?_⟩
  have hmark : (if g.negative then negativeMark else 0) < specialMark ∧
      decide ((if g.negative then negativeMark else 0) = negativeMark) = g.negative := by
    cases g.negative <;> decide
  dsimp only
  rw [if_pos hmark.1, weight_eq hg.weight, hmark.2]

end Groups

end TypedTable.Wire
