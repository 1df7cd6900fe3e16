import Mathlib.Data.Nat.Digits.Lemmas
import Mathlib.Data.UInt

/-!
# Little-endian numbers and script numbers

A number is written as its little-endian bytes without a trailing zero byte.  A script
number also carries a sign: the top bit of its last byte.  A non-negative number whose
last byte has this bit set is therefore followed by a zero byte, which a reader that takes
the bytes as an unsigned number does not see.

## Main definitions

* `leBytes`, `ofLeBytes` — the little-endian bytes of a number, and the number of bytes.
* `scriptNum` — the minimal script number of a non-negative number.
-/

namespace CanaryMining

/-- The little-endian bytes of a number, without a trailing zero byte. -/
def leBytes (n : ℕ) : List UInt8 := (Nat.digits 256 n).map UInt8.ofNat

/-- The number that little-endian bytes denote. -/
def ofLeBytes (bytes : List UInt8) : ℕ := Nat.ofDigits 256 (bytes.map UInt8.toNat)

/-- The minimal script number of a non-negative number. -/
def scriptNum (n : ℕ) : List UInt8 :=
  match (leBytes n).getLast? with
  | none => []
  | some top => if 0x80 ≤ top then leBytes n ++ [0] else leBytes n

@[simp] theorem ofLeBytes_leBytes (n : ℕ) : ofLeBytes (leBytes n) = n := by
  have hbytes : (leBytes n).map UInt8.toNat = Nat.digits 256 n := by
    rw [leBytes, List.map_map]
    refine (List.map_congr_left fun digit hdigit => ?_).trans (List.map_id _)
    have hlt : digit < 256 := Nat.digits_lt_base (by omega) hdigit
    exact UInt8.toNat_ofNat_of_lt' hlt
  rw [ofLeBytes, hbytes, Nat.ofDigits_digits]

/-- Trailing zero bytes add nothing. -/
@[simp] theorem ofLeBytes_append_replicate_zero (bytes : List UInt8) (k : ℕ) :
    ofLeBytes (bytes ++ List.replicate k 0) = ofLeBytes bytes := by
  rw [ofLeBytes, List.map_append, List.map_replicate, UInt8.toNat_zero,
    Nat.ofDigits_append_replicate_zero, ofLeBytes]

theorem length_leBytes_le {n k : ℕ} (h : n < 256 ^ k) : (leBytes n).length ≤ k := by
  rw [leBytes, List.length_map]
  exact (Nat.digits_length_le_iff (by omega) n).2 h

theorem leBytes_eq_nil {n : ℕ} : leBytes n = [] ↔ n = 0 := by
  rw [leBytes, List.map_eq_nil_iff, Nat.digits_eq_nil_iff_eq_zero]

/-- A script number is the bytes of the number and at most one zero byte. -/
theorem scriptNum_eq (n : ℕ) : ∃ k ≤ 1, scriptNum n = leBytes n ++ List.replicate k 0 := by
  unfold scriptNum
  split
  · rename_i hlast
    refine ⟨0, by omega, ?_⟩
    rw [List.getLast?_eq_none_iff.1 hlast]
    rfl
  · split
    · exact ⟨1, by omega, rfl⟩
    · exact ⟨0, by omega, (List.append_nil _).symm⟩

/-- **A script number reads back** as the number, also as an unsigned one. -/
@[simp] theorem ofLeBytes_scriptNum (n : ℕ) : ofLeBytes (scriptNum n) = n := by
  obtain ⟨k, -, hk⟩ := scriptNum_eq n
  rw [hk, ofLeBytes_append_replicate_zero, ofLeBytes_leBytes]

theorem length_scriptNum_le {n k : ℕ} (h : n < 256 ^ k) : (scriptNum n).length ≤ k + 1 := by
  obtain ⟨j, hj, heq⟩ := scriptNum_eq n
  have hbytes := length_leBytes_le h
  rw [heq, List.length_append, List.length_replicate]
  omega

theorem length_scriptNum_pos {n : ℕ} (h : 0 < n) : 0 < (scriptNum n).length := by
  obtain ⟨j, -, heq⟩ := scriptNum_eq n
  have hbytes : leBytes n ≠ [] := fun hnil => by
    rw [leBytes_eq_nil] at hnil
    omega
  have hlength := List.length_pos_of_ne_nil hbytes
  rw [heq, List.length_append]
  omega

/-- The top byte of a number counts as often as there are numbers of the bytes below. -/
theorem mul_le_of_getLast_leBytes {n : ℕ} {top : UInt8} (h : (leBytes n).getLast? = some top) :
    256 ^ ((leBytes n).length - 1) * top.toNat ≤ n := by
  obtain ⟨low, hbytes⟩ := List.getLast?_eq_some_iff.1 h
  have hvalue : n = ofLeBytes low + 256 ^ low.length * top.toNat := by
    have hread := ofLeBytes_leBytes n
    rw [hbytes, ofLeBytes, List.map_append, List.map_singleton, Nat.ofDigits_append,
      List.length_map, Nat.ofDigits_singleton] at hread
    exact hread.symm
  have hlength : (leBytes n).length - 1 = low.length := by
    rw [hbytes, List.length_append, List.length_singleton]
    omega
  rw [hlength]
  omega

/-- A number whose top bit is clear in `k + 1` bytes needs no zero byte after them. -/
theorem length_scriptNum_le_of_lt {n k : ℕ} (h : n < 128 * 256 ^ k) :
    (scriptNum n).length ≤ k + 1 := by
  have hbytes : (leBytes n).length ≤ k + 1 :=
    length_leBytes_le (by rw [pow_succ]; omega)
  unfold scriptNum
  split
  · simp
  · rename_i top htop
    split
    · rename_i hsign
      -- The sign byte is needed only where the bytes below it leave room for it.
      have htop' : 128 ≤ top.toNat := UInt8.le_iff_toNat_le.1 hsign
      have hle := mul_le_of_getLast_leBytes htop
      have hlt : (leBytes n).length ≤ k := by
        by_contra hfull
        have hlength : (leBytes n).length - 1 = k := by omega
        rw [hlength] at hle
        have hmul : 256 ^ k * 128 ≤ 256 ^ k * top.toNat := Nat.mul_le_mul_left _ htop'
        omega
      rw [List.length_append, List.length_singleton]
      omega
    · exact hbytes

end CanaryMining
