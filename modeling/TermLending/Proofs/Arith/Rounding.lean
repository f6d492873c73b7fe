import Mathlib.Algebra.Order.Field.Rat
import Mathlib.Data.Nat.Cast.Order.Field
import Mathlib.Tactic.GCongr
import Mathlib.Tactic.Linarith
import Mathlib.Tactic.Positivity
import TermLending.Proofs.Arith.Shifts

/-!
# What rounding changes

Rounding half up moves a quotient by half a unit at most, and what divides evenly not at all. A rounded number that is
scaled and rounded again carries its error along.
-/

namespace TermLending

variable {d : Nat}

/-- Half of an odd divisor is not whole. What is cut off there is too little to matter. -/
theorem halfUp_bounds (n : Nat) (positive : 0 < d) :
    2 * n < 2 * (halfUp n d * d) + d ∧ 2 * (halfUp n d * d) ≤ 2 * n + d := by
  have whole := Nat.div_add_mod' (n + d / 2) d
  have rest := Nat.mod_lt (n + d / 2) positive
  unfold halfUp
  generalize (n + d / 2) / d * d = rounded at whole ⊢
  generalize (n + d / 2) % d = remainder at whole rest
  omega

theorem halfUp_mul_self (n : Nat) (positive : 0 < d) : halfUp (n * d) d = n := by
  unfold halfUp
  rw [Nat.add_comm, Nat.add_mul_div_right _ _ positive, Nat.div_eq_of_lt (Nat.div_lt_self positive (by decide)),
    Nat.zero_add]

theorem halfUp_error (n : Nat) (positive : 0 < d) : |(halfUp n d : ℚ) - n / d| ≤ 1 / 2 := by
  obtain ⟨below, above⟩ := halfUp_bounds n positive
  have below : (2 * n : ℚ) < 2 * (halfUp n d * d) + d := by exact_mod_cast below
  have above : (2 * (halfUp n d * d) : ℚ) ≤ 2 * n + d := by exact_mod_cast above
  have divisor : (0 : ℚ) < d := by exact_mod_cast positive
  rw [abs_sub_le_iff]
  constructor
  · rw [sub_le_comm, le_div_iff₀ divisor]
    linarith
  · rw [sub_le_iff_le_add, div_le_iff₀ divisor]
    linarith

theorem error_of_scaled {a x y c ε δ : ℚ} (scale : 0 ≤ c) (outer : |a - c * x| ≤ ε) (inner : |x - y| ≤ δ) :
    |a - c * y| ≤ ε + c * δ :=
  calc |a - c * y| ≤ |a - c * x| + |c * x - c * y| := abs_sub_le _ _ _
    _ = |a - c * x| + c * |x - y| := by rw [← mul_sub, abs_mul, abs_of_nonneg scale]
    _ ≤ ε + c * δ := by gcongr

namespace Decimal

theorem rescale_of_scale {a : Decimal} {scale : Nat} (same : a.scale = scale) : a.rescale scale = a :=
  same ▸ a.rescale_self

theorem mulHalfUp_error (a b : Decimal) (scale : Nat) :
    |((mulHalfUp a b scale).raw : ℚ) - (a.rescale scale).raw * (b.rescale scale).raw / 10 ^ scale| ≤ 1 / 2 := by
  have rounded := halfUp_error ((a.rescale scale).raw * (b.rescale scale).raw) (ten_pow_pos scale)
  push_cast at rounded
  exact rounded

end Decimal

end TermLending
