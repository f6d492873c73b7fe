import Mathlib.Tactic.Ring
import TermLending.Arith.Decimal

/-!
# Changing the number of decimals

To count a quantity in other units is to multiply by one power of ten and to divide by another, and the fraction is
dropped. So a shift never overstates, and of two shifts after each other only those are exact that keep, in between, all
digits that the result has.
-/

namespace TermLending

variable {value value' a b c : Nat}

theorem ten_pow_pos (n : Nat) : 0 < 10 ^ n := Nat.pow_pos (by decide)

/-- Both directions in one: what does not fit is divided away, and a power of ten too many is cancelled. -/
theorem shiftDecimals_eq (value source target : Nat) :
    shiftDecimals value source target = value * 10 ^ target / 10 ^ source := by
  unfold shiftDecimals
  split
  · next finer =>
    obtain ⟨gap, rfl⟩ := Nat.exists_eq_add_of_le finer
    rw [Nat.add_sub_cancel_left, Nat.pow_add, Nat.mul_left_comm, Nat.mul_div_cancel_left _ (ten_pow_pos source)]
    rfl
  · next coarser =>
    obtain ⟨gap, rfl⟩ := Nat.exists_eq_add_of_le (Nat.le_of_not_le coarser)
    rw [Nat.add_sub_cancel_left, Nat.pow_add, Nat.mul_comm value, Nat.mul_div_mul_left _ _ (ten_pow_pos target)]
    rfl

theorem shiftDecimals_of_le (finer : a ≤ b) (value : Nat) : shiftDecimals value a b = value * 10 ^ (b - a) :=
  if_pos finer

theorem shiftDecimals_mul_le (value source target : Nat) :
    shiftDecimals value source target * 10 ^ source ≤ value * 10 ^ target := by
  rw [shiftDecimals_eq]
  exact Nat.div_mul_le_self _ _

theorem shiftDecimals_mono (le : value ≤ value') (source target : Nat) :
    shiftDecimals value source target ≤ shiftDecimals value' source target := by
  rw [shiftDecimals_eq, shiftDecimals_eq]
  exact Nat.div_le_div_right (Nat.mul_le_mul_right _ le)

/-! ### One shift after another -/

theorem shiftDecimals_twice_le (value a b c : Nat) :
    shiftDecimals (shiftDecimals value a b) b c ≤ shiftDecimals value a c := by
  have first := shiftDecimals_mul_le value a b
  have second := shiftDecimals_mul_le (shiftDecimals value a b) b c
  generalize shiftDecimals value a b = middle at first second ⊢
  generalize shiftDecimals middle b c = last at second ⊢
  rw [shiftDecimals_eq value a c, Nat.le_div_iff_mul_le (ten_pow_pos a)]
  refine Nat.le_of_mul_le_mul_right ?_ (ten_pow_pos b)
  calc last * 10 ^ a * 10 ^ b = last * 10 ^ b * 10 ^ a := Nat.mul_right_comm _ _ _
    _ ≤ middle * 10 ^ c * 10 ^ a := Nat.mul_le_mul_right _ second
    _ = middle * 10 ^ a * 10 ^ c := Nat.mul_right_comm _ _ _
    _ ≤ value * 10 ^ b * 10 ^ c := Nat.mul_le_mul_right _ first
    _ = value * 10 ^ c * 10 ^ b := Nat.mul_right_comm _ _ _

/-- Nothing is lost by going to finer units first. -/
theorem shiftDecimals_of_finer (finer : a ≤ b) (value c : Nat) :
    shiftDecimals (shiftDecimals value a b) b c = shiftDecimals value a c := by
  obtain ⟨gap, rfl⟩ := Nat.exists_eq_add_of_le finer
  rw [shiftDecimals_of_le finer, Nat.add_sub_cancel_left, shiftDecimals_eq, shiftDecimals_eq, Nat.pow_add,
    Nat.mul_right_comm, Nat.mul_div_mul_right _ _ (ten_pow_pos gap)]

/-- What is dropped on the way to units that are finer than the last ones would be dropped in the end. -/
theorem shiftDecimals_of_coarser (coarser : c ≤ b) (value a : Nat) :
    shiftDecimals (shiftDecimals value a b) b c = shiftDecimals value a c := by
  obtain ⟨gap, rfl⟩ := Nat.exists_eq_add_of_le coarser
  rw [shiftDecimals_eq _ (c + gap) c, Nat.pow_add, Nat.mul_comm _ (10 ^ c), Nat.mul_div_mul_left _ _ (ten_pow_pos c),
    shiftDecimals_eq, shiftDecimals_eq, Nat.div_div_eq_div_mul, Nat.pow_add, ← Nat.mul_assoc,
    Nat.mul_div_mul_right _ _ (ten_pow_pos gap)]

/--
Two shifts never make more of a quantity than one. They make the same of it if the units in between are at least as fine as
the coarser ones of the first and the last, so the way to finer units and back changes nothing. And more is never shifted
to less.
-/
theorem shifts_compose (value a b c : Nat) :
    shiftDecimals (shiftDecimals value a b) b c ≤ shiftDecimals value a c ∧
    (min a c ≤ b → shiftDecimals (shiftDecimals value a b) b c = shiftDecimals value a c) ∧
    (a ≤ b → shiftDecimals (shiftDecimals value a b) b a = value) ∧
    ∀ value', value ≤ value' → shiftDecimals value a b ≤ shiftDecimals value' a b := by
  refine ⟨shiftDecimals_twice_le value a b c, ?_, ?_, fun value' le => shiftDecimals_mono le a b⟩
  · intro kept
    rcases min_le_iff.1 kept with finer | coarser
    · exact shiftDecimals_of_finer finer value c
    · exact shiftDecimals_of_coarser coarser value a
  · intro finer
    rw [shiftDecimals_of_finer finer, shiftDecimals_self]

/-- From eight decimals to four nothing is lost by way of six. From two to three, a digit is lost by way of one. -/
theorem shifts_keep_what_fits :
    shiftDecimals (shiftDecimals 123456789 8 6) 6 4 = shiftDecimals 123456789 8 4 ∧
      shiftDecimals (shiftDecimals 123456789 6 8) 8 6 = 123456789 ∧
      shiftDecimals (shiftDecimals 1239 8 6) 6 4 ≤ shiftDecimals (shiftDecimals 1240 8 6) 6 4 ∧
      shiftDecimals (shiftDecimals 1234 2 1) 1 3 < shiftDecimals 1234 2 3 := by
  obtain ⟨_, same, _, _⟩ := shifts_compose 123456789 8 6 4
  obtain ⟨_, _, back, _⟩ := shifts_compose 123456789 6 8 6
  obtain ⟨_, _, _, first⟩ := shifts_compose 1239 8 6 6
  obtain ⟨_, _, _, second⟩ := shifts_compose (shiftDecimals 1239 8 6) 6 4 4
  exact ⟨same (by decide), back (by decide), second _ (first 1240 (by decide)), by decide⟩

end TermLending
