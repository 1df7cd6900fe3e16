import Mathlib.Algebra.Order.Ring.Int

/-!
# Integer columns

A database stores signed 64-bit integers; the program keeps unsigned ones.  The
casts between them keep the bits, so reading back what was written gives the
number that was written.

## Main definitions

* `asI64`, `asU64` — the casts `as i64` and `as u64`.
* `tryI64` — `i64::try_from`, which refuses what does not fit.
-/

namespace CanaryMining

/-- `n as i64`. -/
def asI64 (n : UInt64) : ℤ := n.toInt64.toInt

/-- `i as u64`, for an integer of the column's range. -/
def asU64 (i : ℤ) : UInt64 := (Int64.ofInt i).toUInt64

/-- Reading back a number that was written gives the number. -/
@[simp] theorem asU64_asI64 (n : UInt64) : asU64 (asI64 n) = n := by
  rw [asU64, asI64, Int64.ofInt_toInt, UInt64.toUInt64_toInt64]

/-- `i64::try_from(n)`. -/
def tryI64 (n : UInt64) : Option ℤ := if n.toNat < 2 ^ 63 then some (n.toNat : ℤ) else none

theorem asI64_of_lt {n : UInt64} (h : n.toNat < 2 ^ 63) : asI64 n = n.toNat := by
  have hb : n.toInt64.toInt = n.toBitVec.toInt := rfl
  rw [asI64, hb, BitVec.toInt_eq_toNat_of_lt]
  · rfl
  · change 2 * n.toNat < 2 ^ 64
    omega

theorem tryI64_of_lt {n : UInt64} (h : n.toNat < 2 ^ 63) : tryI64 n = some (asI64 n) := by
  rw [tryI64, if_pos h, asI64_of_lt h]

theorem tryI64_eq_some {n : UInt64} {i : ℤ} (h : tryI64 n = some i) : i = asI64 n := by
  unfold tryI64 at h
  split at h
  · rename_i hn
    rw [asI64_of_lt hn]
    exact (Option.some.inj h).symm
  · cases h

end CanaryMining
