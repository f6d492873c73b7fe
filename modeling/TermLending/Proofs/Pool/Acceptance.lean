import TermLending.Pool.Action

/-!
# When a pool accepts an action

For each action the exact conditions under which a pool accepts it, and what it then does. Divisions and differences
are replaced by their values: a share that an accepted action pays is one of the functions below.
-/

namespace TermLending

theorem pure_eq_ok_iff {α : Type} {a b : α} : (pure a : Except Fault α) = .ok b ↔ b = a := by
  simp [pure, Except.pure, eq_comm]

theorem bind_pure_eq_ok_iff {α β : Type} {x : Except Fault α} {f : α → β} {b : β} :
    (do return f (← x) : Except Fault β) = .ok b ↔ ∃ a, x = .ok a ∧ b = f a := by
  simp only [bind_eq_ok_iff, pure_eq_ok_iff]

namespace Pool

/-! ### Shares -/

/-- The receipts that a stake is worth: the part of it that was lent out. -/
def matchedOf (p : Pool) (stake : Nat) : Nat := stake * p.matchedLend / p.lendSupply

def unmatchedOf (p : Pool) (stake : Nat) : Nat := stake * (p.lendSupply - p.matchedLend) / p.lendSupply

def drawnOf (p : Pool) (pledge : Nat) : Nat := pledge * p.matchedLend / p.borrowSupply

/-- The receipts that a claim creates. A liquidated pool creates none. -/
def receiptsOf (p : Pool) (stake : Nat) : Nat := if p.phase = .liquidated then 0 else p.matchedOf stake

/-- What a claim pays back. Nothing is paid back twice. -/
def refundOf (p : Pool) (position : LendPosition) : Nat :=
  if position.refunded then 0 else p.unmatchedOf position.stake

def lendPayoutOf (p : Pool) (receipts : Nat) : Nat := receipts * p.finishLend / p.matchedLend

def borrowPayoutOf (p : Pool) (receipts : Nat) : Nat := receipts * p.finishBorrow / p.borrowSupply

def lendRecoveryOf (p : Pool) (stake : Nat) : Nat := p.matchedOf stake * p.recoveryLend / p.matchedLend

def borrowRecoveryOf (p : Pool) (pledge : Nat) : Nat := pledge * p.recoveryBorrow / p.borrowSupply

variable {p : Pool} {s : Scene} {t : Transition} {n : Nat} {token : Token}

theorem matched_eq (p : Pool) (stake : Nat) : p.matched stake = .ok (p.matchedOf stake) := by
  unfold matched matchedOf
  split
  · next empty => simp [empty]
  · next some => exact mulDiv_eq_ok_iff.2 ⟨some, rfl⟩

theorem unmatched_eq_ok_iff {stake : Nat} : p.unmatched stake = .ok n ↔
    (p.lendSupply = 0 ∨ p.matchedLend ≤ p.lendSupply) ∧ n = p.unmatchedOf stake := by
  unfold unmatched unmatchedOf
  split
  · next empty => simp [empty, eq_comm]
  · next some =>
    simp only [bind_eq_ok_iff, difference_eq_ok_iff, mulDiv_eq_ok_iff, some, false_or]
    constructor
    · rintro ⟨_, ⟨le, rfl⟩, _, rfl⟩
      exact ⟨le, rfl⟩
    · rintro ⟨le, rfl⟩
      exact ⟨_, ⟨le, rfl⟩, some, rfl⟩

theorem drawn_eq_ok_iff {pledge : Nat} : p.drawn pledge = .ok n ↔ p.borrowSupply ≠ 0 ∧ n = p.drawnOf pledge :=
  mulDiv_eq_ok_iff

theorem receiptsFor_eq (p : Pool) (stake : Nat) : p.receiptsFor stake = .ok (p.receiptsOf stake) := by
  unfold receiptsFor receiptsOf
  split
  · rfl
  · exact matched_eq p stake

theorem refundFor_eq_ok_iff {position : LendPosition} : p.refundFor position = .ok n ↔
    (position.refunded ∨ p.lendSupply = 0 ∨ p.matchedLend ≤ p.lendSupply) ∧ n = p.refundOf position := by
  unfold refundFor refundOf
  split
  · next done => simp [done, eq_comm]
  · next due => simp [due, unmatched_eq_ok_iff]

theorem stakeRecovery_eq_ok_iff {stake : Nat} : p.stakeRecovery stake = .ok n ↔
    p.lendSupply ≠ 0 ∧ p.matchedLend ≠ 0 ∧ n = p.lendRecoveryOf stake := by
  simp only [stakeRecovery, bind_eq_ok_iff, mulDiv_eq_ok_iff]
  constructor
  · rintro ⟨_, ⟨lent, rfl⟩, drawn, rfl⟩
    exact ⟨lent, drawn, rfl⟩
  · rintro ⟨lent, drawn, rfl⟩
    exact ⟨_, ⟨lent, rfl⟩, drawn, rfl⟩

theorem pledgeRecovery_eq_ok_iff {pledge : Nat} : p.pledgeRecovery pledge = .ok n ↔
    p.borrowSupply ≠ 0 ∧ n = p.borrowRecoveryOf pledge :=
  mulDiv_eq_ok_iff

/-! ### Deposits -/

theorem acceptsDeposits_iff {l : Loan} {now : Nat} :
    l.acceptsDeposits now = true ↔ l.phase = .matching ∧ now < l.settleTime := by
  simp [Loan.acceptsDeposits]

theorem positive_payment_iff {amount : Nat} (positive : 0 < amount) :
    s.payment = .ok ⟨token, amount⟩ ↔ s.attached = [⟨token, amount⟩] := by
  unfold Scene.payment
  split
  · next none => simp [none]; omega
  · next payment one => simp [one]
  · next none notOne => simpa using fun one => notOne _ one

/-- The caller brings `amount` of `token` to a pool that is open for deposits. -/
structure Deposits (p : Pool) (s : Scene) (token : Token) (amount : Nat) : Prop where
  active : s.paused = false
  matching : p.phase = .matching
  early : s.now < p.settleTime
  attached : s.attached = [⟨token, amount⟩]
  positive : 0 < amount
  enough : s.minDeposit ≤ amount

theorem acceptDeposit_eq_ok_iff : p.acceptDeposit s token = .ok n ↔ p.Deposits s token n := by
  simp only [acceptDeposit, bind_eq_ok_iff, demand_eq_ok_iff, exists_const, pure_eq_ok_iff, acceptsDeposits_iff]
  constructor
  · rintro ⟨active, matching, ⟨_, early⟩, ⟨_, amount⟩, paid, rfl, positive, enough, rfl⟩
    exact ⟨active, matching, early, (positive_payment_iff positive).1 paid, positive, enough⟩
  · rintro ⟨active, matching, early, attached, positive, enough⟩
    exact ⟨active, matching, ⟨matching, early⟩, ⟨token, n⟩, (positive_payment_iff positive).2 attached, rfl,
      positive, enough, rfl⟩

theorem depositLend_eq_ok_iff : p.depositLend s = .ok t ↔
    ∃ amount, p.Deposits s p.settleToken amount ∧ p.lendSupply + amount ≤ p.maxSupply ∧
      t = {
        pool := p.stake s.caller amount
        payout := { recipient := s.caller }
        events := [.lendDeposited s.caller s.id p.settleToken amount] } := by
  simp only [depositLend, bind_eq_ok_iff, demand_eq_ok_iff, exists_const, pure_eq_ok_iff, acceptDeposit_eq_ok_iff]

theorem depositBorrow_eq_ok_iff : p.depositBorrow s = .ok t ↔
    ∃ amount, p.Deposits s p.pledgeToken amount ∧
      t = {
        pool := p.pledge s.caller amount
        payout := { recipient := s.caller }
        events := [.borrowDeposited s.caller s.id p.pledgeToken amount] } := by
  simp only [depositBorrow, bind_eq_ok_iff, pure_eq_ok_iff, acceptDeposit_eq_ok_iff]

def unstake (p : Pool) (user : Address) (amount : Nat) : Pool :=
  let position := p.lendPosition user
  { p.keepStake user { position with stake := position.stake - amount } with lendSupply := p.lendSupply - amount }

theorem cancelLend_eq_ok_iff {amount : Nat} : p.cancelLend s amount = .ok t ↔
    p.phase = .matching ∧ s.now < p.settleTime ∧ 0 < amount ∧ amount ≤ (p.lendPosition s.caller).stake ∧
      amount ≤ p.lendSupply ∧
      t = {
        pool := p.unstake s.caller amount
        payout := { recipient := s.caller, settle := amount }
        events := [.lendCancelled s.caller s.id amount] } := by
  simp only [cancelLend, bind_eq_ok_iff, demand_eq_ok_iff, exists_const, pure_eq_ok_iff, difference_eq_ok_iff,
    acceptsDeposits_iff]
  constructor
  · rintro ⟨matching, ⟨_, early⟩, positive, held, _, ⟨_, rfl⟩, _, ⟨supplied, rfl⟩, rfl⟩
    exact ⟨matching, early, positive, held, supplied, rfl⟩
  · rintro ⟨matching, early, positive, held, supplied, rfl⟩
    exact ⟨matching, ⟨matching, early⟩, positive, held, _, ⟨held, rfl⟩, _, ⟨supplied, rfl⟩, rfl⟩

/-! ### Claims -/

theorem lend_isOpen_iff {q : LendPosition} : q.isOpen = true ↔ 0 < q.stake := by
  simp [LendPosition.isOpen]

theorem borrow_isOpen_iff {q : BorrowPosition} : q.isOpen = true ↔ 0 < q.pledge := by
  simp [BorrowPosition.isOpen]

theorem refundUnmatched_eq_ok_iff : p.refundUnmatched s = .ok t ↔
    let position := p.lendPosition s.caller
    p.phase.isSettled ∧ 0 < position.stake ∧ position.claimed = false ∧ position.refunded = false ∧
      (p.lendSupply = 0 ∨ p.matchedLend ≤ p.lendSupply) ∧ 0 < p.unmatchedOf position.stake ∧
      t = {
        pool := p.setLending s.caller { position with refunded := true }
        payout := { recipient := s.caller, settle := p.unmatchedOf position.stake }
        events := [.lendRefunded s.caller s.id (p.unmatchedOf position.stake)] } := by
  simp only [refundUnmatched, bind_eq_ok_iff, demand_eq_ok_iff, exists_const, pure_eq_ok_iff, lend_isOpen_iff,
    unmatched_eq_ok_iff]
  constructor
  · rintro ⟨settled, staked, unclaimed, unrefunded, _, ⟨fits, rfl⟩, positive, rfl⟩
    exact ⟨settled, staked, unclaimed, unrefunded, fits, positive, rfl⟩
  · rintro ⟨settled, staked, unclaimed, unrefunded, fits, positive, rfl⟩
    exact ⟨settled, staked, unclaimed, unrefunded, _, ⟨fits, rfl⟩, positive, rfl⟩

theorem claimLend_eq_ok_iff : p.claimLend s = .ok t ↔
    let position := p.lendPosition s.caller
    p.phase.isSettled ∧ 0 < position.stake ∧ position.claimed = false ∧
      (position.refunded ∨ p.lendSupply = 0 ∨ p.matchedLend ≤ p.lendSupply) ∧
      t = {
        pool := p.setLending s.caller
          { position with claimed := true, refunded := true, receipts := p.receiptsOf position.stake }
        payout := {
          recipient := s.caller, settle := p.refundOf position, mintLend := p.receiptsOf position.stake }
        events := (if 0 < p.refundOf position then [.lendRefunded s.caller s.id (p.refundOf position)] else [])
          ++ [.lendClaimed s.caller s.id (p.receiptsOf position.stake)] } := by
  simp only [claimLend, bind_eq_ok_iff, demand_eq_ok_iff, exists_const, pure_eq_ok_iff, lend_isOpen_iff,
    receiptsFor_eq, refundFor_eq_ok_iff, Except.ok.injEq]
  constructor
  · rintro ⟨settled, staked, unclaimed, _, rfl, _, ⟨fits, rfl⟩, rfl⟩
    exact ⟨settled, staked, unclaimed, fits, rfl⟩
  · rintro ⟨settled, staked, unclaimed, fits, rfl⟩
    exact ⟨settled, staked, unclaimed, _, rfl, _, ⟨fits, rfl⟩, rfl⟩

/-- The receipts that a claim creates for a pledge, one for each unit. A liquidated pool creates none. -/
def pledgeReceiptsOf (p : Pool) (pledge : Nat) : Nat := if p.phase = .liquidated then 0 else pledge

theorem claimBorrow_eq_ok_iff : p.claimBorrow s = .ok t ↔
    let position := p.borrowPosition s.caller
    p.phase.isSettled ∧ 0 < position.pledge ∧ position.claimed = false ∧ p.borrowSupply ≠ 0 ∧
      t = {
        pool := p.setBorrowing s.caller
          { position with
            claimed := true, borrowed := p.drawnOf position.pledge, receipts := p.pledgeReceiptsOf position.pledge }
        payout := {
          recipient := s.caller, settle := p.drawnOf position.pledge
          mintBorrow := p.pledgeReceiptsOf position.pledge }
        events := [.borrowClaimed s.caller s.id (p.drawnOf position.pledge) (p.pledgeReceiptsOf position.pledge)] } := by
  simp only [claimBorrow, bind_eq_ok_iff, demand_eq_ok_iff, exists_const, pure_eq_ok_iff, borrow_isOpen_iff,
    drawn_eq_ok_iff]
  constructor
  · rintro ⟨settled, pledged, unclaimed, _, ⟨supplied, rfl⟩, rfl⟩
    exact ⟨settled, pledged, unclaimed, supplied, rfl⟩
  · rintro ⟨settled, pledged, unclaimed, supplied, rfl⟩
    exact ⟨settled, pledged, unclaimed, _, ⟨supplied, rfl⟩, rfl⟩

/-! ### Redeeming receipts -/

theorem soleToken_eq_ok_iff {attached : List Payment} {payment : Payment} :
    soleToken attached = .ok payment ↔ attached = [payment] ∧ payment.token ≠ .native := by
  unfold soleToken
  split
  · next paid =>
    split
    · next coin =>
      constructor
      · intro refused
        cases refused
      · rintro ⟨one, other⟩
        cases one
        exact absurd coin other
    · next notCoin =>
      constructor
      · rintro ⟨⟩
        exact ⟨rfl, notCoin⟩
      · rintro ⟨one, _⟩
        cases one
        rfl
  · next several =>
    constructor
    · intro refused
      cases refused
    · rintro ⟨one, _⟩
      exact absurd one (several payment)

theorem receiptsPaid_eq_ok_iff {given : Except Fault Token} : receiptsPaid s given = .ok n ↔
    ∃ token, given = .ok token ∧ token ≠ .native ∧ s.attached = [⟨token, n⟩] ∧ 0 < n := by
  simp only [receiptsPaid, bind_eq_ok_iff, demand_eq_ok_iff, exists_const, pure_eq_ok_iff, soleToken_eq_ok_iff]
  constructor
  · rintro ⟨_, read, payment, ⟨attached, other⟩, rfl, positive, rfl⟩
    exact ⟨_, read, other, attached, positive⟩
  · rintro ⟨token, read, other, attached, positive⟩
    exact ⟨token, read, ⟨token, n⟩, ⟨attached, other⟩, rfl, positive, rfl⟩

theorem withdrawLend_eq_ok_iff : p.withdrawLend s = .ok t ↔
    ∃ receipts, p.phase = .finished ∧ receiptsPaid s s.lendToken = .ok receipts ∧ 0 < p.matchedLend ∧
      t = {
        pool := p
        payout := { recipient := s.caller, burnLend := receipts, pledge := p.lendPayoutOf receipts }
        events := [.lendWithdrawn s.caller s.id receipts (p.lendPayoutOf receipts)] } := by
  simp only [withdrawLend, bind_eq_ok_iff, demand_eq_ok_iff, exists_const, pure_eq_ok_iff, lendPayout,
    mulDiv_eq_ok_iff]
  constructor
  · rintro ⟨finished, receipts, paid, drawn, _, ⟨_, rfl⟩, rfl⟩
    exact ⟨receipts, finished, paid, drawn, rfl⟩
  · rintro ⟨receipts, finished, paid, drawn, rfl⟩
    exact ⟨finished, receipts, paid, drawn, _, ⟨Nat.pos_iff_ne_zero.1 drawn, rfl⟩, rfl⟩

theorem withdrawBorrow_eq_ok_iff : p.withdrawBorrow s = .ok t ↔
    ∃ receipts, p.phase = .finished ∧ receiptsPaid s s.borrowToken = .ok receipts ∧ 0 < p.borrowSupply ∧
      t = {
        pool := p
        payout := { recipient := s.caller, burnBorrow := receipts, pledge := p.borrowPayoutOf receipts }
        events := [.borrowWithdrawn s.caller s.id receipts (p.borrowPayoutOf receipts)] } := by
  simp only [withdrawBorrow, bind_eq_ok_iff, demand_eq_ok_iff, exists_const, pure_eq_ok_iff, borrowPayout,
    mulDiv_eq_ok_iff]
  constructor
  · rintro ⟨finished, receipts, paid, pledged, _, ⟨_, rfl⟩, rfl⟩
    exact ⟨receipts, finished, paid, pledged, rfl⟩
  · rintro ⟨receipts, finished, paid, pledged, rfl⟩
    exact ⟨finished, receipts, paid, pledged, _, ⟨Nat.pos_iff_ne_zero.1 pledged, rfl⟩, rfl⟩

/-! ### Settlement and maturity -/

theorem settle_eq_ok_iff : p.settle s = .ok t ↔
    ∃ amounts, p.phase = .matching ∧ p.settleTime ≤ s.now ∧ p.settledAmounts s = .ok amounts ∧
      t = {
        pool := p.setAmounts amounts .running
        payout := { recipient := s.caller }
        events := [
          .phaseChanged s.id .matching .running,
          .poolSettled s.id amounts.matchedLend amounts.matchedBorrow] } := by
  simp only [settle, bind_eq_ok_iff, demand_eq_ok_iff, exists_const, pure_eq_ok_iff, Loan.canSettle,
    decide_eq_true_eq]
  constructor
  · rintro ⟨matching, due, amounts, settled, rfl⟩
    exact ⟨amounts, matching, due, settled, rfl⟩
  · rintro ⟨amounts, matching, due, settled, rfl⟩
    exact ⟨matching, due, amounts, settled, rfl⟩

theorem matchSides_le {prices : Prices} {lend borrow : Nat} (h : p.matchSides prices = .ok (lend, borrow)) :
    lend ≤ p.lendSupply ∧ borrow ≤ p.borrowSupply := by
  unfold matchSides at h
  obtain ⟨capacity, carried, h⟩ := bind_eq_ok_iff.1 h
  obtain ⟨rate, rated, carried⟩ := bind_eq_ok_iff.1 carried
  obtain ⟨_, rfl⟩ := signed64_eq_ok_iff.1 rated
  obtain ⟨priced, rfl⟩ := mulDiv_eq_ok_iff.1 carried
  split at h
  · next short =>
    cases pure_eq_ok_iff.1 h
    exact ⟨Nat.le_of_lt short, Nat.le_refl _⟩
  · next carries =>
    obtain ⟨rate, reread, h⟩ := bind_eq_ok_iff.1 h
    obtain ⟨_, rfl⟩ := signed64_eq_ok_iff.1 reread
    obtain ⟨matched, read, h⟩ := bind_eq_ok_iff.1 h
    obtain ⟨pledgePriced, rfl⟩ := mulDiv_eq_ok_iff.1 read
    cases pure_eq_ok_iff.1 h
    refine ⟨Nat.le_refl _, Nat.div_le_of_le_mul ?_⟩
    -- The pledge carries the whole loan, so the worth of the loan is within the worth of the pledge.
    have within := (Nat.le_div_iff_mul_le (Nat.pos_of_ne_zero priced)).1 (Nat.le_of_not_lt carries)
    calc p.lendSupply * p.mortgageRate * prices.settle = p.lendSupply * (prices.settle * p.mortgageRate) := by
          rw [Nat.mul_assoc, Nat.mul_comm p.mortgageRate]
      _ ≤ p.borrowSupply * prices.pledge * bpsWhole := within
      _ = prices.pledge * bpsWhole * p.borrowSupply := by rw [Nat.mul_assoc, Nat.mul_comm]

theorem settledAmounts_cases {amounts : Amounts} (h : p.settledAmounts s = .ok amounts) :
    amounts = p.toAmounts ∨
      0 < p.lendSupply ∧ 0 < p.borrowSupply ∧ ∃ lend borrow, lend ≤ p.lendSupply ∧ borrow ≤ p.borrowSupply ∧
        amounts = { p.toAmounts with matchedLend := lend, matchedBorrow := borrow } := by
  unfold settledAmounts at h
  split at h
  · cases h
    exact .inl rfl
  · next both =>
    obtain ⟨prices, _, h⟩ := bind_eq_ok_iff.1 h
    obtain ⟨⟨lend, borrow⟩, sides, h⟩ := bind_eq_ok_iff.1 h
    cases pure_eq_ok_iff.1 h
    obtain ⟨lent, pledged⟩ := matchSides_le sides
    exact .inr ⟨by omega, by omega, lend, borrow, lent, pledged, rfl⟩

theorem finish_eq_ok_iff : p.finish s = .ok t ↔
    ∃ split, p.phase = .running ∧ p.endTime ≤ s.now ∧ p.split s = .ok split ∧
      t = {
        pool := p.setAmounts { p.toAmounts with finishLend := split.lend, finishBorrow := split.borrow } .finished
        payout := { recipient := s.feeAddress, pledge := split.fees }
        events := [
          .phaseChanged s.id .running .finished,
          .poolFinished s.id split.lend split.borrow] } := by
  simp only [finish, bind_eq_ok_iff, demand_eq_ok_iff, exists_const, pure_eq_ok_iff, Loan.canFinish,
    decide_eq_true_eq]
  constructor
  · rintro ⟨running, due, split, parts, rfl⟩
    exact ⟨split, running, due, parts, rfl⟩
  · rintro ⟨split, running, due, parts, rfl⟩
    exact ⟨running, due, split, parts, rfl⟩

/-- The split gives the whole pledge away, and lenders without a matched stake get nothing of it. -/
theorem split_exact {parts : Split} (h : p.split s = .ok parts) :
    parts.lend + parts.borrow + parts.fees = p.borrowSupply ∧ (p.matchedLend = 0 → parts.lend = 0) := by
  unfold split at h
  obtain ⟨forLenders, owed, h⟩ := bind_eq_ok_iff.1 h
  obtain ⟨lendFee, _, h⟩ := bind_eq_ok_iff.1 h
  obtain ⟨forBorrowers, left, h⟩ := bind_eq_ok_iff.1 h
  obtain ⟨borrowFee, _, h⟩ := bind_eq_ok_iff.1 h
  obtain ⟨lend, lendNet, h⟩ := bind_eq_ok_iff.1 h
  obtain ⟨borrow, borrowNet, h⟩ := bind_eq_ok_iff.1 h
  cases pure_eq_ok_iff.1 h
  have := difference_eq_ok_iff.1 left
  have := difference_eq_ok_iff.1 lendNet
  have := difference_eq_ok_iff.1 borrowNet
  refine ⟨by dsimp only; omega, fun unmatched => ?_⟩
  rw [pledgeForLenders, if_pos unmatched, Except.ok.injEq] at owed
  dsimp only
  omega

/-! ### Liquidation -/

theorem isLiquidatable_eq_ok_iff {now health : Nat} {b : Bool} (running : p.phase = .running) :
    p.isLiquidatable now health = .ok b ∧ b ↔
      p.settleTime ≤ now ∧ p.liquidationThreshold ≤ maxI64 ∧ health < p.liquidationThreshold ∧ b := by
  unfold isLiquidatable
  split
  · next due =>
    have settled : p.settleTime ≤ now := by simpa [Loan.canSettle] using due.2
    simp only [bind_eq_ok_iff, signed64_eq_ok_iff, pure_eq_ok_iff, settled, true_and]
    constructor
    · rintro ⟨⟨_, ⟨small, rfl⟩, rfl⟩, low⟩
      exact ⟨small, by simpa using low, low⟩
    · rintro ⟨small, low, rfl⟩
      exact ⟨⟨_, ⟨small, rfl⟩, by simpa using low⟩, rfl⟩
  · next early =>
    have unsettled : ¬p.settleTime ≤ now := by simpa [Loan.canSettle, running] using early
    simp [unsettled]

/-- A pool that lent nothing out is healthy at every threshold that fits its word. -/
theorem matched_of_unhealthy {health : Nat} (h : p.health s = .ok health) (small : p.liquidationThreshold ≤ maxI64)
    (low : health < p.liquidationThreshold) : 0 < p.matchedLend := by
  rcases Nat.eq_zero_or_pos p.matchedLend with none | some
  · rw [Pool.health, if_pos none, Except.ok.injEq, healthWithoutDebt] at h
    omega
  · exact some

/-- The fixed parts of the pledge leave something for the borrowers. -/
theorem reward_add_penalty_le (pledged : Nat) : bpsOf pledged rewardBps + bpsOf pledged penaltyBps ≤ pledged := by
  unfold bpsOf rewardBps penaltyBps bpsWhole
  omega

theorem liquidate_eq_ok_iff : p.liquidate s = .ok t ↔
    ∃ health, p.phase = .running ∧ p.health s = .ok health ∧ p.settleTime ≤ s.now ∧
      p.liquidationThreshold ≤ maxI64 ∧ health < p.liquidationThreshold ∧
      let reward := bpsOf p.borrowSupply rewardBps
      let recoveryLend := bpsOf p.borrowSupply penaltyBps
      let recoveryBorrow := p.borrowSupply - reward - recoveryLend
      t = {
        pool := p.setAmounts { p.toAmounts with recoveryLend, recoveryBorrow } .liquidated
        payout := { recipient := s.caller, pledge := reward }
        events := [
          .phaseChanged s.id .running .liquidated,
          .poolLiquidated s.caller s.id health reward recoveryLend recoveryBorrow] } := by
  have fits := reward_add_penalty_le p.borrowSupply
  simp only [liquidate, bind_eq_ok_iff, demand_eq_ok_iff, exists_const, pure_eq_ok_iff, difference_eq_ok_iff]
  constructor
  · rintro ⟨running, health, read, b, liquidatable, unhealthy, _, ⟨_, rfl⟩, _, ⟨_, rfl⟩, rfl⟩
    obtain ⟨due, small, low, _⟩ := (isLiquidatable_eq_ok_iff running).1 ⟨liquidatable, unhealthy⟩
    exact ⟨health, running, read, due, small, low, rfl⟩
  · rintro ⟨health, running, read, due, small, low, rfl⟩
    obtain ⟨liquidatable, unhealthy⟩ := (isLiquidatable_eq_ok_iff (b := true) running).2 ⟨due, small, low, rfl⟩
    exact ⟨running, health, read, true, liquidatable, unhealthy, _, ⟨by omega, rfl⟩, _, ⟨by omega, rfl⟩, rfl⟩

theorem recoverLend_eq_ok_iff : p.recoverLend s = .ok t ↔
    let position := p.lendPosition s.caller
    p.phase = .liquidated ∧ 0 < position.stake ∧ position.recovered = false ∧ p.lendSupply ≠ 0 ∧ p.matchedLend ≠ 0 ∧
      t = {
        pool := p.setLending s.caller { position with recovered := true }
        payout := { recipient := s.caller, pledge := p.lendRecoveryOf position.stake }
        events := [.lendRecovered s.caller s.id (p.lendRecoveryOf position.stake)] } := by
  simp only [recoverLend, bind_eq_ok_iff, demand_eq_ok_iff, exists_const, pure_eq_ok_iff, lend_isOpen_iff,
    stakeRecovery_eq_ok_iff]
  constructor
  · rintro ⟨liquidated, staked, first, _, ⟨supplied, drawn, rfl⟩, rfl⟩
    exact ⟨liquidated, staked, first, supplied, drawn, rfl⟩
  · rintro ⟨liquidated, staked, first, supplied, drawn, rfl⟩
    exact ⟨liquidated, staked, first, _, ⟨supplied, drawn, rfl⟩, rfl⟩

theorem recoverBorrow_eq_ok_iff : p.recoverBorrow s = .ok t ↔
    let position := p.borrowPosition s.caller
    p.phase = .liquidated ∧ 0 < position.pledge ∧ position.recovered = false ∧ p.borrowSupply ≠ 0 ∧
      t = {
        pool := p.setBorrowing s.caller { position with recovered := true }
        payout := { recipient := s.caller, pledge := p.borrowRecoveryOf position.pledge }
        events := [.borrowRecovered s.caller s.id (p.borrowRecoveryOf position.pledge)] } := by
  simp only [recoverBorrow, bind_eq_ok_iff, demand_eq_ok_iff, exists_const, pure_eq_ok_iff, borrow_isOpen_iff,
    pledgeRecovery_eq_ok_iff]
  constructor
  · rintro ⟨liquidated, pledged, first, _, ⟨supplied, rfl⟩, rfl⟩
    exact ⟨liquidated, pledged, first, supplied, rfl⟩
  · rintro ⟨liquidated, pledged, first, supplied, rfl⟩
    exact ⟨liquidated, pledged, first, _, ⟨supplied, rfl⟩, rfl⟩

end Pool

end TermLending
