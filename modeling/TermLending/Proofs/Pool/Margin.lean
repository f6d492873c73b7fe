import TermLending.Proofs.Pool.Liquidation
import TermLending.Proofs.Pool.Matching
import TermLending.Proofs.Pool.Schedule

/-!
# The margin of a settled pool

A settlement leaves the pledge worth the mortgage rate of the loan at least. The threshold for closing a pool early is
lower, so the price of the pledge has to fall by the ratio of the two before anybody may do that.
-/

namespace TermLending.Pool

variable {p p' : Pool} {s : Scene} {t : Transition} {prices prices' : Prices} {rate : Nat}

/-- The pledge is worth `rate` basis points of the loan at least. -/
def CoveredAt (p : Pool) (rate : Nat) (prices : Prices) : Prop :=
  rate * (p.matchedLend * prices.settle) ≤ p.borrowSupply * prices.pledge * 10000

/-- A pool without a loan reports the largest signed word, so no rate beyond that is sure to be reached. -/
theorem health_of_covered (read : s.prices = .ok prices) (settle : 0 < prices.settle) (pledge : 0 < prices.pledge)
    (fits : rate ≤ maxI64) (covered : p.CoveredAt rate prices) : ∃ health, p.health s = .ok health ∧ rate ≤ health := by
  rcases Nat.eq_zero_or_pos p.matchedLend with none | lent
  · exact ⟨healthWithoutDebt, if_pos none, fits⟩
  · refine ⟨_, (health_eq_ok_iff lent).2 ⟨prices, read, settle, pledge, rfl⟩, ?_⟩
    rw [Nat.le_div_iff_mul_le (Nat.mul_pos lent settle)]
    exact covered

/-- The pool was settled at `prices`, and has kept what was fixed then. -/
structure Margin (p : Pool) (prices : Prices) : Prop where
  settle : 0 < prices.settle
  pledge : 0 < prices.pledge
  rated : p.mortgageRate ≤ maxI64
  secured : p.Secures prices p.borrowSupply p.matchedLend

theorem margin_of_settle (lent : 0 < p.lendSupply) (staked : 0 < p.borrowSupply) (settled : p.settle s = .ok t) :
    ∃ prices, s.prices = .ok prices ∧ t.pool.Margin prices := by
  obtain ⟨prices, known, best, _⟩ := settle_matches lent staked settled
  obtain ⟨read, settle, pledge⟩ := Scene.positivePrices_eq_ok_iff.1 known
  have rated : p.mortgageRate ≤ maxI64 := by
    rcases settle_needs settled with none | none | fits
    · omega
    · omega
    · exact fits
  have secured := best.largest.1.2
  obtain ⟨amounts, _, _, _, rfl⟩ := settle_eq_ok_iff.1 settled
  exact ⟨prices, read, settle, pledge, rated, secured⟩

theorem Margin.later (h : p.Margin prices) (settled : p.phase.isSettled = true) (later : p.Later p') :
    p'.Margin prices where
  settle := h.settle
  pledge := h.pledge
  rated := by
    rw [later.terms]
    exact h.rated
  secured := by
    unfold Secures
    rw [later.matchedLend settled, later.borrowSupply settled, later.terms]
    exact h.secured

/-- The loan is covered at any rate that the price ratio has left of the mortgage rate. -/
theorem Margin.covers (h : p.Margin prices)
    (left : rate * prices'.settle * prices.pledge ≤ prices'.pledge * prices.settle * p.mortgageRate) :
    p.CoveredAt rate prices' := by
  have secured : p.matchedLend * prices.settle * p.mortgageRate ≤ p.borrowSupply * prices.pledge * 10000 := h.secured
  -- Both sides are compared after a multiplication by the old price of the pledge.
  refine Nat.le_of_mul_le_mul_right ?_ h.pledge
  calc rate * (p.matchedLend * prices'.settle) * prices.pledge
      = p.matchedLend * (rate * prices'.settle * prices.pledge) := by ring
    _ ≤ p.matchedLend * (prices'.pledge * prices.settle * p.mortgageRate) := Nat.mul_le_mul_left _ left
    _ = prices'.pledge * (p.matchedLend * prices.settle * p.mortgageRate) := by ring
    _ ≤ prices'.pledge * (p.borrowSupply * prices.pledge * 10000) := Nat.mul_le_mul_left _ secured
    _ = p.borrowSupply * prices'.pledge * 10000 * prices.pledge := by ring

/-- Whoever closes the pool early finds that the price ratio has fallen below what the threshold asks for. -/
theorem Margin.fallen (h : p.Margin prices) (closed : p.liquidate s = .ok t) :
    ∃ prices', s.prices = .ok prices' ∧
      prices'.pledge * prices.settle * p.mortgageRate < p.liquidationThreshold * prices'.settle * prices.pledge := by
  obtain ⟨health, _, read, _, small, low, _⟩ := liquidate_eq_ok_iff.1 closed
  obtain ⟨prices', known, settle, pledge, _⟩ := (health_eq_ok_iff (matched_of_unhealthy read small low)).1 read
  refine ⟨prices', known, ?_⟩
  by_contra left
  obtain ⟨health', read', high⟩ := health_of_covered known settle pledge small (h.covers (Nat.le_of_not_lt left))
  cases read.symm.trans read'
  exact Nat.lt_irrefl _ (low.trans_le high)

end TermLending.Pool
