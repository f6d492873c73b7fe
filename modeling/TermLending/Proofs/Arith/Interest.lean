import Mathlib.Tactic.NormNum
import Mathlib.Tactic.Ring
import TermLending.Arith.Interest
import TermLending.Proofs.Arith.Rounding

/-!
# How exact interest is

Interest is rounded three times: as a part of a year, as a factor and as an amount. Each rounding moves its result by half
a unit at most; the rate scales the first error, and the principal the first two.
-/

namespace TermLending.Interest

open Decimal

variable {rate time : Nat}

/-- The elapsed part of a year, in units of `10 ^ -18`. -/
theorem fraction_error (time : Nat) : ∃ fraction,
    divHalfUp ⟨time, 0⟩ ⟨secondsPerYear, 0⟩ wadDecimals = .ok fraction ∧ fraction.scale = wadDecimals ∧
      |(fraction.raw : ℚ) - time * wad / secondsPerYear| ≤ 1 / 2 := by
  unfold divHalfUp
  refine ⟨_, if_neg (by decide), rfl, ?_⟩
  have rounded := halfUp_error (time * wad * wad) (by decide : 0 < secondsPerYear * wad)
  push_cast at rounded
  rw [mul_div_mul_right _ _ (by norm_num [wad])] at rounded
  exact rounded

/-- The rate scales the error of the fraction, and the factor adds its own. -/
theorem factor_error (rateFits : rate ≤ maxI64) (timeFits : time ≤ maxI64) : ∃ factor,
    Interest.factor rate time = .ok factor ∧ factor.scale = wadDecimals ∧
      |(factor.raw : ℚ) - rate / 10000 * (time * wad / secondsPerYear)| ≤ 1 / 2 + rate / 10000 * (1 / 2) := by
  rcases Nat.eq_zero_or_pos time with rfl | elapsed
  · refine ⟨wadZero, factor_zero_time rate, rfl, ?_⟩
    simp only [wadZero, Nat.cast_zero, zero_mul, zero_div, mul_zero, sub_zero, abs_zero]
    positivity
  · obtain ⟨fraction, divided, scale, near⟩ := fraction_error time
    refine ⟨mulHalfUp (.ofBps rate) fraction wadDecimals, ?_, rfl, error_of_scaled (by positivity) ?_ near⟩
    · unfold Interest.factor
      rw [if_neg (Nat.ne_of_gt elapsed)]
      simp only [signed64, rateFits, timeFits, if_true, divided, bind, Except.bind, pure, Except.pure]
    · have rounded := mulHalfUp_error (.ofBps rate) fraction wadDecimals
      have units : ((Decimal.ofBps rate).rescale wadDecimals).raw = rate * 10 ^ 14 := rfl
      rw [rescale_of_scale scale, units] at rounded
      convert rounded using 3
      push_cast [wadDecimals]
      ring

/-- The product with the principal is exact. Only the amount is rounded. -/
theorem earned_eq (principal : Nat) {factor : Decimal} (scale : factor.scale = wadDecimals) :
    earned principal factor = halfUp (principal * factor.raw) wad := by
  have product : (mulHalfUp ⟨principal, 0⟩ factor wadDecimals).raw = principal * factor.raw := by
    unfold mulHalfUp
    rw [rescale_of_scale scale]
    show halfUp (principal * Nat.pow 10 wadDecimals * factor.raw) (Nat.pow 10 wadDecimals) = _
    rw [Nat.mul_right_comm]
    exact halfUp_mul_self _ (ten_pow_pos _)
  rw [← product]
  rfl

theorem earned_error (principal : Nat) {factor : Decimal} (scale : factor.scale = wadDecimals) :
    |(earned principal factor : ℚ) - principal / wad * factor.raw| ≤ 1 / 2 := by
  have rounded := halfUp_error (principal * factor.raw) (by decide : 0 < wad)
  rw [earned_eq principal scale, div_mul_eq_mul_div]
  push_cast at rounded
  exact rounded

/--
Rates and times that fit signed words have an interest. It differs from the exact one by half a unit for its own rounding
and by what the principal makes of half a unit of the eighteenth decimal, once as it is and once at the rate.
-/
theorem interest_is_accurate (principal : Nat) (rateFits : rate < 2 ^ 63) (timeFits : time < 2 ^ 63) :
    ∃ interest, accrued principal rate time = .ok interest ∧
      let D : ℚ := 10000 * 31536000
      |(interest : ℚ) - principal * rate * time / D| ≤ 1 / 2 + principal * (10000 + rate) / (20000 * 10 ^ 18) ∧
        |interest * D - principal * rate * time| ≤ D / 2 + D * principal * (10000 + rate) / (20000 * 10 ^ 18) := by
  have rateWord : rate ≤ maxI64 := Nat.le_of_lt_succ rateFits
  have timeWord : time ≤ maxI64 := Nat.le_of_lt_succ timeFits
  obtain ⟨factor, known, scale, near⟩ := factor_error rateWord timeWord
  have close := error_of_scaled (by positivity) (earned_error principal scale) near
  refine ⟨earned principal factor, bind_eq_ok_iff.2 ⟨factor, known, rfl⟩, ?_⟩
  intro D
  have exact : (principal : ℚ) / wad * (rate / 10000 * (time * wad / secondsPerYear)) = principal * rate * time / D := by
    simp only [wad, secondsPerYear, D]
    ring
  have bound : 1 / 2 + (principal : ℚ) / wad * (1 / 2 + rate / 10000 * (1 / 2)) =
      1 / 2 + principal * (10000 + rate) / (20000 * 10 ^ 18) := by
    simp only [wad]
    ring
  rw [exact, bound] at close
  have positive : 0 < D := by norm_num [D]
  refine ⟨close, ?_⟩
  calc |(earned principal factor : ℚ) * D - principal * rate * time|
      = |((earned principal factor : ℚ) - principal * rate * time / D) * D| := by
        rw [sub_mul, div_mul_cancel₀ _ positive.ne']
    _ = |(earned principal factor : ℚ) - principal * rate * time / D| * D := by rw [abs_mul, abs_of_pos positive]
    _ ≤ (1 / 2 + principal * (10000 + rate) / (20000 * 10 ^ 18)) * D := by gcongr
    _ = D / 2 + D * principal * (10000 + rate) / (20000 * 10 ^ 18) := by ring

/-- A day at ten percent a year earns 273973 of a billion. The exact interest is 273972 and some. -/
theorem day_interest_is_accurate :
    accrued 1000000000 1000 86400 = .ok 273973 ∧
      |((273973 : Nat) : ℚ) - 1000000000 * 1000 * 86400 / (10000 * 31536000)| ≤
        1 / 2 + 1000000000 * (10000 + 1000) / (20000 * 10 ^ 18) := by
  obtain ⟨interest, earned, close, _⟩ := interest_is_accurate 1000000000 (by decide : 1000 < 2 ^ 63)
    (by decide : 86400 < 2 ^ 63)
  have known : accrued 1000000000 1000 86400 = .ok 273973 := by decide +kernel
  rw [known] at earned
  cases earned
  exact ⟨known, by exact_mod_cast close⟩

end TermLending.Interest
