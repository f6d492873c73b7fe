import TermLending.Proofs.Arith.Interest

/-!
# How interest grows

Rounding keeps the order of what it rounds. So does every step from the principal, the rate and the time to the interest,
and none of the three can grow at the expense of the amount due.
-/

namespace TermLending

theorem halfUp_mono {n m : Nat} (le : n ≤ m) (d : Nat) : halfUp n d ≤ halfUp m d :=
  Nat.div_le_div_right (Nat.add_le_add_right le _)

theorem halfUp_zero (d : Nat) : halfUp 0 d = 0 := by
  rcases Nat.eq_zero_or_pos d with rfl | positive
  · rfl
  · have none := halfUp_mul_self 0 positive
    rwa [Nat.zero_mul] at none

namespace Interest

open Decimal

variable {principal principal' rate rate' time time' : Nat}

/-! ### Interest without faults -/

/-- The elapsed part of a year, in units of `10 ^ -18`. -/
def fractionOf (time : Nat) : Nat := halfUp (time * wad * wad) (secondsPerYear * wad)

/-- The share of the principal that is earned, in units of `10 ^ -18`. -/
def factorOf (rate time : Nat) : Nat := halfUp (rate * 10 ^ 14 * fractionOf time) wad

def interestOf (principal rate time : Nat) : Nat := halfUp (principal * factorOf rate time) wad

theorem factorOf_zero_time (rate : Nat) : factorOf rate 0 = 0 := by
  unfold factorOf fractionOf
  rw [Nat.zero_mul, Nat.zero_mul, halfUp_zero, Nat.mul_zero, halfUp_zero]

theorem factor_eq (rateFits : rate ≤ maxI64) (timeFits : time ≤ maxI64) :
    factor rate time = .ok ⟨factorOf rate time, wadDecimals⟩ := by
  rcases Nat.eq_zero_or_pos time with rfl | elapsed
  · rw [factorOf_zero_time]
    exact factor_zero_time rate
  · have divided : divHalfUp ⟨time, 0⟩ ⟨secondsPerYear, 0⟩ wadDecimals = .ok ⟨fractionOf time, wadDecimals⟩ := by
      unfold divHalfUp
      exact if_neg (by decide)
    have earned : mulHalfUp (.ofBps rate) ⟨fractionOf time, wadDecimals⟩ wadDecimals =
        ⟨factorOf rate time, wadDecimals⟩ := by
      unfold mulHalfUp
      rw [rescale_of_scale rfl]
      rfl
    unfold factor
    rw [if_neg (Nat.ne_of_gt elapsed)]
    simp only [signed64, rateFits, timeFits, if_true, divided, earned, bind, Except.bind, pure, Except.pure]

theorem accrued_eq (principal : Nat) (rateFits : rate ≤ maxI64) (timeFits : time ≤ maxI64) :
    accrued principal rate time = .ok (interestOf principal rate time) := by
  refine bind_eq_ok_iff.2 ⟨_, factor_eq rateFits timeFits, ?_⟩
  rw [earned_eq principal rfl]
  rfl

theorem due_eq (principal : Nat) (rateFits : rate ≤ maxI64) (timeFits : time ≤ maxI64) :
    due principal rate time = .ok (principal + interestOf principal rate time) :=
  bind_eq_ok_iff.2 ⟨_, accrued_eq principal rateFits timeFits, rfl⟩

/-- At first nothing is earned, at whatever rate. -/
theorem accrued_zero_time (principal rate : Nat) : accrued principal rate 0 = .ok 0 := by
  refine bind_eq_ok_iff.2 ⟨_, factor_zero_time rate, ?_⟩
  rw [earned_eq principal rfl]
  show Except.ok (halfUp (principal * 0) wad) = .ok 0
  rw [Nat.mul_zero, halfUp_zero]

/-! ### Growth -/

theorem fractionOf_mono (time_le : time ≤ time') : fractionOf time ≤ fractionOf time' :=
  halfUp_mono (Nat.mul_le_mul_right wad (Nat.mul_le_mul_right wad time_le)) _

theorem factorOf_mono (rate_le : rate ≤ rate') (time_le : time ≤ time') : factorOf rate time ≤ factorOf rate' time' :=
  halfUp_mono (Nat.mul_le_mul (Nat.mul_le_mul_right _ rate_le) (fractionOf_mono time_le)) _

theorem interestOf_mono (principal_le : principal ≤ principal') (rate_le : rate ≤ rate') (time_le : time ≤ time') :
    interestOf principal rate time ≤ interestOf principal' rate' time' :=
  halfUp_mono (Nat.mul_le_mul principal_le (factorOf_mono rate_le time_le)) _

theorem interestOf_zero_time (principal rate : Nat) : interestOf principal rate 0 = 0 := by
  unfold interestOf
  rw [factorOf_zero_time, Nat.mul_zero, halfUp_zero]

/-- An amount is there for all words that take part in arithmetic, and more of anything never makes less of it. -/
def Grows (amount : Nat → Nat → Nat → Except Fault Nat) : Prop :=
  ∀ principal principal' rate rate' time time', principal ≤ principal' → rate ≤ rate' → time ≤ time' →
    rate' < 2 ^ 63 → time' < 2 ^ 63 →
      ∃ n n', amount principal rate time = .ok n ∧ amount principal' rate' time' = .ok n' ∧ n ≤ n'

theorem accrued_grows : Grows accrued := by
  intro principal principal' rate rate' time time' principal_le rate_le time_le rateFits timeFits
  have rateWord : rate' ≤ maxI64 := Nat.le_of_lt_succ rateFits
  have timeWord : time' ≤ maxI64 := Nat.le_of_lt_succ timeFits
  exact ⟨_, _, accrued_eq principal (rate_le.trans rateWord) (time_le.trans timeWord),
    accrued_eq principal' rateWord timeWord, interestOf_mono principal_le rate_le time_le⟩

theorem due_grows : Grows due := by
  intro principal principal' rate rate' time time' principal_le rate_le time_le rateFits timeFits
  obtain ⟨n, n', less, more, le⟩ := accrued_grows _ _ _ _ _ _ principal_le rate_le time_le rateFits timeFits
  exact ⟨principal + n, principal' + n', bind_eq_ok_iff.2 ⟨n, less, rfl⟩, bind_eq_ok_iff.2 ⟨n', more, rfl⟩,
    Nat.add_le_add principal_le le⟩

theorem principal_le_due {amount : Nat} (h : due principal rate time = .ok amount) : principal ≤ amount := by
  obtain ⟨interest, _, h⟩ := bind_eq_ok_iff.1 h
  cases h
  exact Nat.le_add_right _ _

end Interest

end TermLending
