import Mathlib.Algebra.Order.Ring.Rat
import Mathlib.Algebra.Order.Group.Unbundled.Abs

/-!
# Double-precision numbers

The operations of IEEE doubles a program uses, with no algebraic law: rounding
and NaN break most of them, so what is proved about a program over a `Double`
holds whatever its arithmetic does.  Where a sum is meant as an exact one, that the numbers
are added without rounding is an assumption of its own.

## Main definitions

* `Double` — a type with the operations of `f64`.
* `Double.Exact` — numbers that are added without rounding.
* `ExactDouble` — exact numbers and one NaN, an instance that computes.
-/

namespace CanaryMining

/-- A type with the operations of `f64`. -/
class Double (F : Type) where
  zero : F
  isNan : F → Bool
  /-- The number closest to a rational. -/
  ofRat : ℚ → F
  add : F → F → F
  sub : F → F → F
  mul : F → F → F
  div : F → F → F
  /-- `f64::max`, the other number where one is NaN. -/
  max : F → F → F
  abs : F → F
  /-- `<=`, which no NaN satisfies. -/
  le : F → F → Bool

/-- `Iterator::sum` of `f64`. -/
def Double.sum {F : Type} [Double F] (l : List F) : F := l.foldl Double.add Double.zero

/-- Numbers that are added without rounding. -/
structure Double.Exact (F : Type) [Double F] : Prop where
  zero : (Double.zero : F) = Double.ofRat 0
  add : ∀ p q, Double.add (Double.ofRat p : F) (Double.ofRat q) = Double.ofRat (p + q)

/-- Numbers that are added without rounding sum to the sum. -/
theorem Double.Exact.sum {F : Type} [Double F] (h : Double.Exact F) (l : List ℚ) :
    Double.sum (l.map (Double.ofRat (F := F))) = Double.ofRat l.sum := by
  have hfold : ∀ p, (l.map (Double.ofRat (F := F))).foldl Double.add (Double.ofRat p) =
      Double.ofRat (p + l.sum) := by
    induction l with
    | nil => simp
    | cons q l ih =>
      intro p
      rw [List.map_cons, List.foldl_cons, h.add, ih, List.sum_cons, add_assoc]
  rw [Double.sum, h.zero, hfold, zero_add]

/-- Exact rationals together with one NaN. -/
inductive ExactDouble
  | nan
  | num (q : ℚ)
  deriving DecidableEq

namespace ExactDouble

/-- An operation on two numbers, NaN where one is. -/
def lift (f : ℚ → ℚ → ExactDouble) : ExactDouble → ExactDouble → ExactDouble
  | num p, num q => f p q
  | _, _ => nan

/-- `f64::max`. -/
def max : ExactDouble → ExactDouble → ExactDouble
  | num p, num q => num (Max.max p q)
  | nan, b => b
  | a, nan => a

/-- `<=`. -/
def le : ExactDouble → ExactDouble → Bool
  | num p, num q => p ≤ q
  | _, _ => false

end ExactDouble

instance : Double ExactDouble where
  zero := .num 0
  isNan
    | .nan => true
    | .num _ => false
  ofRat := .num
  add := .lift fun p q => .num (p + q)
  sub := .lift fun p q => .num (p - q)
  mul := .lift fun p q => .num (p * q)
  -- The quotient by zero is not a number here, also where IEEE has an infinity.
  div := .lift fun p q => if q = 0 then .nan else .num (p / q)
  max := .max
  abs
    | .nan => .nan
    | .num q => .num |q|
  le := ExactDouble.le

theorem exact_exactDouble : Double.Exact ExactDouble := ⟨rfl, fun _ _ => rfl⟩

end CanaryMining
