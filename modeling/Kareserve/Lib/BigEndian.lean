/-
Big-endian integers: `int.to_bytes` and `int.from_bytes` with byte order
`"big"`, unsigned and two's complement. The reader takes any number of
bytes, as Python's does; the writer is given its width and the round
trips (`fromBytes_toBytes`, `fromBytesSigned_toBytes`) hold wherever the
number fits that width.
-/
import Mathlib.Data.UInt
import Mathlib.Tactic.Ring
import Mathlib.Tactic.NormNum

namespace BigEndian

/-- `int.from_bytes(bs, "big")`. -/
def fromBytes (bs : List UInt8) : ℕ :=
  bs.foldl (fun n b => 256 * n + b.toNat) 0

/-- `int.from_bytes(bs, "big", signed=True)`. -/
def fromBytesSigned (bs : List UInt8) : ℤ :=
  if 256 ^ bs.length ≤ 2 * fromBytes bs then
    (fromBytes bs : ℤ) - 256 ^ bs.length
  else fromBytes bs

/-- `n.to_bytes(width, "big")`, for an `n` below `256 ^ width`. -/
def toBytes : ℕ → ℕ → List UInt8
  | 0, _ => []
  | width + 1, n => toBytes width (n / 256) ++ [UInt8.ofNat n]

theorem fromBytes_concat (bs : List UInt8) (b : UInt8) :
    fromBytes (bs ++ [b]) = 256 * fromBytes bs + b.toNat := by
  simp [fromBytes]

theorem toBytes_length (width n : ℕ) : (toBytes width n).length = width := by
  induction width generalizing n with
  | zero => rfl
  | succ width ih => simp [toBytes, ih]

/-- Reading back what was written, where the number fits the width. -/
theorem fromBytes_toBytes {width n : ℕ} (h : n < 256 ^ width) :
    fromBytes (toBytes width n) = n := by
  induction width generalizing n with
  | zero =>
      have hn : n = 0 := by simpa using h
      subst hn
      rfl
  | succ width ih =>
      have hdiv : n / 256 < 256 ^ width := by
        rw [Nat.div_lt_iff_lt_mul (by omega)]
        rwa [pow_succ] at h
      rw [toBytes, fromBytes_concat, ih hdiv]
      have hbyte : (UInt8.ofNat n).toNat = n % 256 := by
        simp [UInt8.toNat_ofNat']
      rw [hbyte]
      exact Nat.div_add_mod n 256

/-- The signed reader agrees below the sign bit. -/
theorem fromBytesSigned_toBytes {width n : ℕ} (h : 2 * n < 256 ^ width) :
    fromBytesSigned (toBytes width n) = n := by
  have hn : fromBytes (toBytes width n) = n := fromBytes_toBytes (by omega)
  unfold fromBytesSigned
  rw [toBytes_length, hn, if_neg (by omega)]

end BigEndian
