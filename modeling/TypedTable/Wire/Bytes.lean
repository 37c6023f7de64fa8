/-!
# Numbers as bytes

Numbers on the wire are written with the most significant byte first. `bigEndian w n` is `n` in `w`
bytes, reduced modulo `256 ^ w`; `unsigned` and `signed` read a whole list of bytes, and `word?`
reads a number of two bytes from the front of a list.

`unsigned_bigEndian` says that reading undoes writing for a number that fits.
-/

namespace TypedTable.Wire

/-- The bytes of a cell or a parameter. -/
abbrev Bytes := List UInt8

/-- The low `width` bytes of a number, the most significant one first. -/
def bigEndian : Nat → Nat → Bytes
  | 0, _ => []
  | width + 1, n => bigEndian width (n / 256) ++ [UInt8.ofNat n]

/-- A signed number in two's complement. -/
def signedBigEndian (width : Nat) (n : Int) : Bytes :=
  bigEndian width (n % Nat.pow 256 width).toNat

/-- The number that bytes stand for. -/
def unsigned (bytes : Bytes) : Nat := bytes.foldl (fun n b => n * 256 + b.toNat) 0

/-- The number that bytes stand for in two's complement. -/
def signed (bytes : Bytes) : Int :=
  let n := unsigned bytes
  if 2 * n < Nat.pow 256 bytes.length then n else n - Nat.pow 256 bytes.length

/-- A number of two bytes at the front, and what follows it. -/
def word? : Bytes → Option (Nat × Bytes)
  | high :: low :: rest => some (unsigned [high, low], rest)
  | _ => none

@[simp] theorem length_bigEndian (width n : Nat) : (bigEndian width n).length = width := by
  induction width generalizing n with
  | zero => rfl
  | succ width ih => simp [bigEndian, ih]

theorem unsigned_append_singleton (bytes : Bytes) (b : UInt8) :
    unsigned (bytes ++ [b]) = unsigned bytes * 256 + b.toNat := by
  simp [unsigned]

/-- Reading undoes writing, up to the number of bytes. -/
theorem unsigned_bigEndian (width n : Nat) :
    unsigned (bigEndian width n) = n % Nat.pow 256 width := by
  induction width generalizing n with
  | zero => simp [bigEndian, unsigned, Nat.mod_one]
  | succ width ih =>
    have hpow : Nat.pow 256 (width + 1) = 256 * Nat.pow 256 width := Nat.pow_succ'
    have hmod : n % (256 * Nat.pow 256 width) = n % 256 + 256 * (n / 256 % Nat.pow 256 width) :=
      Nat.mod_mul
    have hbyte : (UInt8.ofNat n).toNat = n % 256 := UInt8.toNat_ofNat'
    rw [bigEndian, unsigned_append_singleton, ih, hpow, hmod, hbyte]
    omega

end TypedTable.Wire
