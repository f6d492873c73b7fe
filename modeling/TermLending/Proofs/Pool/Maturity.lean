import TermLending.Proofs.Pool.Schedule

/-!
# What lenders are entitled to

The lenders' part of the pledge is the worth of principal and interest, at most all of it. A pool that has reached its
end reports the same principal and interest as due, however late it is asked. Fees are cut from each part, so the two
sides and the fees together are the pledge.
-/

namespace TermLending.Pool

variable {p : Pool} {s : Scene} {t : Transition} {parts : Split} {now part : Nat}

/-- At the end the term is over, and later it does not get longer. -/
theorem interestElapsed_of_ended (ended : p.endTime ≤ now) : p.interestElapsed now = p.endTime - p.settleTime := by
  unfold Loan.interestElapsed
  rw [Nat.min_eq_right ended]

theorem dueNow_of_ended (settled : p.phase.isSettled = true) (ended : p.endTime ≤ now) :
    p.dueNow now = Interest.due p.matchedLend p.interestRate (p.endTime - p.settleTime) := by
  unfold dueNow
  rw [if_pos settled, interestElapsed_of_ended ended]

/-- The part of the pledge that lenders may have, before the fee. Without a loan it is nothing, and no price is asked. -/
def EntitledTo (p : Pool) (s : Scene) (part : Nat) : Prop :=
  if p.matchedLend = 0 then part = 0
  else ∃ prices due, s.positivePrices = .ok prices ∧ p.dueNow s.now = .ok due ∧
    part = min (due * prices.settle / prices.pledge) p.borrowSupply

theorem entitled_of_pledgeForLenders (settled : p.phase.isSettled = true) (ended : p.endTime ≤ s.now)
    (owed : p.pledgeForLenders s = .ok part) : p.EntitledTo s part := by
  unfold pledgeForLenders at owed
  unfold EntitledTo
  split at owed
  · next none =>
    rw [if_pos none]
    exact (Except.ok.inj owed).symm
  · next lent =>
    rw [if_neg lent]
    obtain ⟨prices, known, owed⟩ := bind_eq_ok_iff.1 owed
    obtain ⟨term, lasted, owed⟩ := bind_eq_ok_iff.1 owed
    obtain ⟨due, earned, owed⟩ := bind_eq_ok_iff.1 owed
    obtain ⟨worth, priced, owed⟩ := bind_eq_ok_iff.1 owed
    obtain ⟨_, rfl⟩ := difference_eq_ok_iff.1 lasted
    obtain ⟨_, rfl⟩ := mulDiv_eq_ok_iff.1 priced
    cases pure_eq_ok_iff.1 owed
    refine ⟨prices, due, known, ?_, rfl⟩
    rw [dueNow_of_ended settled ended]
    exact earned

/-- Each side gets its part of the pledge without the fee. -/
theorem split_cuts (h : p.split s = .ok parts) :
    ∃ part, p.pledgeForLenders s = .ok part ∧ parts.lend = part - part * s.fees.lend / 10000 ∧
      parts.borrow = (p.borrowSupply - part) - (p.borrowSupply - part) * s.fees.borrow / 10000 := by
  obtain ⟨part, owed, h⟩ := bind_eq_ok_iff.1 h
  obtain ⟨lendFee, lendCut, h⟩ := bind_eq_ok_iff.1 h
  obtain ⟨rest, left, h⟩ := bind_eq_ok_iff.1 h
  obtain ⟨borrowFee, borrowCut, h⟩ := bind_eq_ok_iff.1 h
  obtain ⟨lend, lendNet, h⟩ := bind_eq_ok_iff.1 h
  obtain ⟨borrow, borrowNet, h⟩ := bind_eq_ok_iff.1 h
  cases pure_eq_ok_iff.1 h
  obtain ⟨_, rfl⟩ := difference_eq_ok_iff.1 left
  obtain ⟨_, rfl⟩ := difference_eq_ok_iff.1 lendNet
  obtain ⟨_, rfl⟩ := difference_eq_ok_iff.1 borrowNet
  rw [applyBps_eq_ok lendCut, applyBps_eq_ok borrowCut]
  exact ⟨part, owed, rfl, rfl⟩

/-- Maturity pays the fees out, and keeps for both sides what they are entitled to. -/
theorem finish_divides (finished : p.finish s = .ok t) :
    t.payout = { recipient := s.feeAddress, pledge := p.borrowSupply - t.pool.finishLend - t.pool.finishBorrow } ∧
      t.pool.finishLend + t.pool.finishBorrow ≤ p.borrowSupply ∧
      ∃ part, p.EntitledTo s part ∧ t.pool.finishLend = part - part * s.fees.lend / 10000 ∧
        t.pool.finishBorrow = (p.borrowSupply - part) - (p.borrowSupply - part) * s.fees.borrow / 10000 := by
  obtain ⟨parts, running, ended, split, rfl⟩ := finish_eq_ok_iff.1 finished
  have settled : p.phase.isSettled = true := by
    rw [running]
    rfl
  obtain ⟨part, owed, lend, borrow⟩ := split_cuts split
  have whole := (split_exact split).1
  have fees : parts.fees = p.borrowSupply - parts.lend - parts.borrow := by omega
  refine ⟨?_, ?_, part, entitled_of_pledgeForLenders settled ended owed, lend, borrow⟩
  · rw [fees]
    rfl
  · show parts.lend + parts.borrow ≤ p.borrowSupply
    omega

end TermLending.Pool
