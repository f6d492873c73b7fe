import TermLending.Proofs.Arith.Rounding

/-!
# Rounding to the nearest

Half of an odd divisor is not whole, and half of one is nothing, yet adding it before the division picks the nearest whole
number every time: less than half a divisor is lost, and at most half a divisor is gained. Only one number satisfies both,
and each of the decimal operations that round returns that number.
-/

namespace TermLending

variable {n d r r' : Nat}

/-- `r` is as near to `n / d` as a whole number can be, and the larger one of two equally near ones. -/
def RoundsTo (n d r : Nat) : Prop := 2 * n < 2 * (r * d) + d ∧ 2 * (r * d) ≤ 2 * n + d

instance : Decidable (RoundsTo n d r) := inferInstanceAs (Decidable (_ ∧ _))

theorem halfUp_rounds (n : Nat) (positive : 0 < d) : RoundsTo n d (halfUp n d) := halfUp_bounds n positive

theorem RoundsTo.le (rounded : RoundsTo n d r) (other : RoundsTo n d r') : r' ≤ r := by
  by_contra more
  have next : (r + 1) * d ≤ r' * d := Nat.mul_le_mul_right d (Nat.lt_of_not_le more)
  rw [Nat.succ_mul] at next
  have below := rounded.1
  have above := other.2
  omega

theorem RoundsTo.unique (rounded : RoundsTo n d r) (other : RoundsTo n d r') : r = r' :=
  Nat.le_antisymm (other.le rounded) (rounded.le other)

theorem halfUp_eq_iff (positive : 0 < d) : halfUp n d = r ↔ RoundsTo n d r :=
  ⟨fun same => same ▸ halfUp_rounds n positive, (halfUp_rounds n positive).unique⟩

namespace Decimal

theorem rescale_raw (a : Decimal) (scale : Nat) : (a.rescale scale).raw = shiftDecimals a.raw a.scale scale := by
  unfold rescale shiftDecimals
  split <;> rfl

theorem mulHalfUp_raw_eq_iff (a b : Decimal) (scale r : Nat) :
    (mulHalfUp a b scale).raw = r ↔ RoundsTo ((a.rescale scale).raw * (b.rescale scale).raw) (10 ^ scale) r :=
  halfUp_eq_iff (ten_pow_pos scale)

/-- A divisor that is too small for the scale is no divisor. Any other one gives a quotient. -/
theorem divHalfUp_rounds (a : Decimal) {b : Decimal} {scale : Nat} (positive : 0 < (b.rescale scale).raw) :
    ∃ quotient, divHalfUp a b scale = .ok quotient ∧ quotient.scale = scale ∧
      ∀ r, quotient.raw = r ↔ RoundsTo ((a.rescale scale).raw * 10 ^ scale) (b.rescale scale).raw r :=
  ⟨_, if_neg (Nat.ne_of_gt positive), rfl, fun _ => halfUp_eq_iff positive⟩

theorem rescaleHalfUp_of_coarser {a : Decimal} {scale : Nat} (coarser : scale < a.scale) :
    a.rescaleHalfUp scale = ⟨halfUp a.raw (10 ^ (a.scale - scale)), scale⟩ := if_pos coarser

theorem rescaleHalfUp_of_finer {a : Decimal} {scale : Nat} (finer : a.scale ≤ scale) :
    a.rescaleHalfUp scale = ⟨a.raw * 10 ^ (scale - a.scale), scale⟩ :=
  (if_neg (Nat.not_lt_of_le finer)).trans (if_pos finer)

theorem rescaleHalfUp_self (a : Decimal) : a.rescaleHalfUp a.scale = a :=
  (if_neg (Nat.lt_irrefl _)).trans a.rescale_self

theorem rescaleHalfUp_back {a : Decimal} {scale : Nat} (finer : a.scale ≤ scale) :
    (a.rescaleHalfUp scale).rescaleHalfUp a.scale = a := by
  rcases Nat.eq_or_lt_of_le finer with rfl | finer
  · rw [rescaleHalfUp_self, rescaleHalfUp_self]
  · rw [rescaleHalfUp_of_finer (Nat.le_of_lt finer), rescaleHalfUp_of_coarser finer, halfUp_mul_self _ (ten_pow_pos _)]

/--
Of the factors of a product and of the parts of a quotient, what does not fit into the scale is cut off first. What they
then give is rounded to the nearest, ties upward, in whichever order the factors are, and whether the divisor is odd or
even. So is a decimal that is brought to a coarser scale, and one that went to a finer scale comes back as it was.
-/
theorem operations_round_to_nearest (a b v : Decimal) (n : Nat) :
    (let A := a.raw * 10 ^ n / 10 ^ a.scale
     let B := b.raw * 10 ^ n / 10 ^ b.scale
     ((mulHalfUp a b n).scale = n ∧ mulHalfUp a b n = mulHalfUp b a n ∧
       ∀ r, (mulHalfUp a b n).raw = r ↔ RoundsTo (A * B) (10 ^ n) r) ∧
     (0 < B → ∃ quotient, divHalfUp a b n = .ok quotient ∧ quotient.scale = n ∧
       ∀ r, quotient.raw = r ↔ RoundsTo (A * 10 ^ n) B r)) ∧
    (n < v.scale → (v.rescaleHalfUp n).scale = n ∧
      ∀ r, (v.rescaleHalfUp n).raw = r ↔ RoundsTo v.raw (10 ^ (v.scale - n)) r) ∧
    (v.scale ≤ n → (v.rescaleHalfUp n).rescaleHalfUp v.scale = v) := by
  simp only [← shiftDecimals_eq, ← rescale_raw]
  refine ⟨⟨⟨rfl, mulHalfUp_comm a b n, mulHalfUp_raw_eq_iff a b n⟩, divHalfUp_rounds a⟩, fun coarser => ?_,
    rescaleHalfUp_back⟩
  rw [rescaleHalfUp_of_coarser coarser]
  exact ⟨rfl, fun r => halfUp_eq_iff (ten_pow_pos _)⟩

/-- Two and a half are three, four thirds are one, and 2.449 is 2.4, whose hundredths do not count as a half. -/
theorem halves_are_rounded_up :
    (∃ quotient, divHalfUp ⟨5, 0⟩ ⟨2, 0⟩ 0 = .ok quotient ∧ quotient.raw = 3) ∧
      (∃ quotient, divHalfUp ⟨4, 0⟩ ⟨3, 0⟩ 0 = .ok quotient ∧ quotient.raw = 1) ∧
      (rescaleHalfUp ⟨2449, 3⟩ 1).raw = 24 ∧ (rescaleHalfUp ⟨2449, 3⟩ 6).rescaleHalfUp 3 = ⟨2449, 3⟩ := by
  obtain ⟨⟨_, byTwo⟩, _⟩ := operations_round_to_nearest ⟨5, 0⟩ ⟨2, 0⟩ ⟨2449, 3⟩ 0
  obtain ⟨⟨_, byThree⟩, _⟩ := operations_round_to_nearest ⟨4, 0⟩ ⟨3, 0⟩ ⟨2449, 3⟩ 0
  obtain ⟨_, coarser, _⟩ := operations_round_to_nearest ⟨5, 0⟩ ⟨2, 0⟩ ⟨2449, 3⟩ 1
  obtain ⟨_, _, finer⟩ := operations_round_to_nearest ⟨5, 0⟩ ⟨2, 0⟩ ⟨2449, 3⟩ 6
  obtain ⟨half, gives, _, nearest⟩ := byTwo (by decide)
  obtain ⟨third, gives', _, nearest'⟩ := byThree (by decide)
  exact ⟨⟨half, gives, (nearest 3).2 (by decide)⟩, ⟨third, gives', (nearest' 1).2 (by decide)⟩,
    ((coarser (by decide)).2 24).2 (by decide), finer (by decide)⟩

end Decimal

end TermLending
