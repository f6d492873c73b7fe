import Mathlib.Order.Bounds.Basic
import TermLending.Pool.View
import TermLending.Proofs.Pool.Arithmetic

/-!
# The loan that a settlement makes

The two sides are matched by two quotients of differently ordered products. Read without their fractions, they say one
thing: the loan is the largest one that lenders offer and the pledge secures.
-/

namespace TermLending.Pool

variable {p : Pool} {s : Scene} {t : Transition} {prices : Prices} {pledged lend borrow c m : Nat}

/-- The pledge is worth as much of the loan of `m` as the mortgage rate asks for. -/
def Secures (p : Pool) (prices : Prices) (pledged m : Nat) : Prop :=
  m * prices.settle * p.mortgageRate ≤ pledged * prices.pledge * 10000

/-- What settlement makes of both sides at given prices. -/
structure Matches (p : Pool) (prices : Prices) (lend borrow : Nat) : Prop where
  largest : IsGreatest {m | m ≤ p.lendSupply ∧ p.Secures prices p.borrowSupply m} lend
  pledged : borrow ≤ p.borrowSupply
  exhausted : lend = p.lendSupply ∨ borrow = p.borrowSupply
  owed : lend = p.lendSupply → borrow = p.lendSupply * p.mortgageRate * prices.settle / (10000 * prices.pledge)

theorem capacity_eq_ok_iff : p.capacity pledged prices = .ok c ↔
    p.mortgageRate ≤ maxI64 ∧ prices.settle * p.mortgageRate ≠ 0 ∧
      c = pledged * prices.pledge * bpsWhole / (prices.settle * p.mortgageRate) := by
  simp only [capacity, bind_eq_ok_iff, signed64_eq_ok_iff, mulDiv_eq_ok_iff]
  constructor
  · rintro ⟨_, ⟨fits, rfl⟩, divisor, rfl⟩
    exact ⟨fits, divisor, rfl⟩
  · rintro ⟨fits, divisor, rfl⟩
    exact ⟨_, ⟨fits, rfl⟩, divisor, rfl⟩

/-- The capacity of a pledge is a bound for exactly the loans that it secures. -/
theorem le_capacity_iff (carried : p.capacity pledged prices = .ok c) : m ≤ c ↔ p.Secures prices pledged m := by
  obtain ⟨_, divisor, rfl⟩ := capacity_eq_ok_iff.1 carried
  rw [Nat.le_div_iff_mul_le (Nat.pos_of_ne_zero divisor), ← Nat.mul_assoc]
  rfl

theorem isGreatest_min_capacity (carried : p.capacity p.borrowSupply prices = .ok c) :
    IsGreatest {m | m ≤ p.lendSupply ∧ p.Secures prices p.borrowSupply m} (min p.lendSupply c) := by
  constructor
  · exact ⟨Nat.min_le_left _ _, (le_capacity_iff carried).1 (Nat.min_le_right _ _)⟩
  · rintro m ⟨offered, secured⟩
    exact Nat.le_min.2 ⟨offered, (le_capacity_iff carried).2 secured⟩

theorem matchSides_eq_ok_iff : p.matchSides prices = .ok (lend, borrow) ↔
    ∃ c, p.capacity p.borrowSupply prices = .ok c ∧
      (c < p.lendSupply ∧ lend = c ∧ borrow = p.borrowSupply ∨
        p.lendSupply ≤ c ∧ prices.pledge ≠ 0 ∧ lend = p.lendSupply ∧
          borrow = p.lendSupply * p.mortgageRate * prices.settle / (10000 * prices.pledge)) := by
  unfold matchSides
  rw [bind_eq_ok_iff]
  refine exists_congr fun c => and_congr_right fun carried => ?_
  have fits := (capacity_eq_ok_iff.1 carried).1
  split
  · next short =>
    have : ¬p.lendSupply ≤ c := Nat.not_le_of_lt short
    simp only [pure_eq_ok_iff, Prod.mk.injEq, short, this, true_and, false_and, or_false]
  · next carries =>
    have offered := Nat.le_of_not_lt carries
    simp only [bind_eq_ok_iff, signed64_eq_ok_iff, mulDiv_eq_ok_iff, pure_eq_ok_iff, Prod.mk.injEq, carries, offered,
      true_and, false_and, false_or, bpsWhole, Nat.mul_comm 10000]
    constructor
    · rintro ⟨_, ⟨_, rfl⟩, _, ⟨divisor, rfl⟩, rfl, rfl⟩
      exact ⟨Nat.ne_zero_of_mul_ne_zero_left divisor, rfl, rfl⟩
    · rintro ⟨priced, rfl, rfl⟩
      exact ⟨_, ⟨fits, rfl⟩, _, ⟨Nat.mul_ne_zero priced (by decide), rfl⟩, rfl, rfl⟩

/-- The branch taken decides which side is exhausted; the loan is the smaller of supply and capacity in both. -/
theorem matches_of_matchSides (h : p.matchSides prices = .ok (lend, borrow)) :
    p.Matches prices lend borrow ∧ ∃ c, p.capacity p.borrowSupply prices = .ok c ∧ lend = min p.lendSupply c := by
  have pledged := (matchSides_le h).2
  obtain ⟨c, carried, ⟨short, rfl, rfl⟩ | ⟨offered, _, rfl, rfl⟩⟩ := matchSides_eq_ok_iff.1 h
  · have smaller : min p.lendSupply lend = lend := Nat.min_eq_right (Nat.le_of_lt short)
    have largest := isGreatest_min_capacity carried
    rw [smaller] at largest
    exact ⟨⟨largest, pledged, .inr rfl, fun all => absurd all (Nat.ne_of_lt short)⟩, lend, carried, smaller.symm⟩
  · have smaller : min p.lendSupply c = p.lendSupply := Nat.min_eq_left offered
    have largest := isGreatest_min_capacity carried
    rw [smaller] at largest
    exact ⟨⟨largest, pledged, .inl rfl, fun _ => rfl⟩, c, carried, smaller.symm⟩

/-- A settlement with both sides present matches them at positive prices. -/
theorem settle_matches (lent : 0 < p.lendSupply) (staked : 0 < p.borrowSupply) (settled : p.settle s = .ok t) :
    ∃ prices, s.positivePrices = .ok prices ∧ p.Matches prices t.pool.matchedLend t.pool.matchedBorrow ∧
      ∃ c, p.capacityNow s p.borrowSupply = .ok c ∧ t.pool.matchedLend = min p.lendSupply c := by
  obtain ⟨amounts, _, _, computed, rfl⟩ := settle_eq_ok_iff.1 settled
  rw [settledAmounts, if_neg (by omega)] at computed
  obtain ⟨prices, priced, computed⟩ := bind_eq_ok_iff.1 computed
  obtain ⟨⟨lend, borrow⟩, sides, computed⟩ := bind_eq_ok_iff.1 computed
  cases pure_eq_ok_iff.1 computed
  obtain ⟨best, c, carried, smaller⟩ := matches_of_matchSides sides
  exact ⟨prices, priced, best, c, bind_eq_ok_iff.2 ⟨prices, priced, carried⟩, smaller⟩

/-- Without one of the sides nothing is matched, and no price is looked at. -/
theorem settle_unmatched (shape : p.Shape) (missing : p.lendSupply = 0 ∨ p.borrowSupply = 0)
    (settled : p.settle s = .ok t) : t.pool.matchedLend = 0 ∧ t.pool.matchedBorrow = 0 := by
  obtain ⟨amounts, matching, _, computed, rfl⟩ := settle_eq_ok_iff.1 settled
  rw [settledAmounts, if_pos missing, Except.ok.injEq, shape.amounts.matching matching] at computed
  cases computed
  exact ⟨rfl, rfl⟩

end TermLending.Pool
