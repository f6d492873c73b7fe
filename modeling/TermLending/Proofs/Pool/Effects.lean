import TermLending.Proofs.Pool.Acceptance

/-!
# What an accepted action does

A pool that accepts an action leaves another pool behind, releases a payout and announces events. There is one case for
each way to do so, with all that the pool has checked. Whatever holds of every action is proved from these cases.
-/

namespace TermLending.Pool

variable {p : Pool} {s : Scene} {t : Transition} {action : Action}

/-- The caller takes back `amount` of a stake while the pool is open for deposits. -/
structure Cancels (p : Pool) (s : Scene) (amount : Nat) : Prop where
  matching : p.phase = .matching
  early : s.now < p.settleTime
  positive : 0 < amount
  held : amount ≤ (p.lendPosition s.caller).stake
  covered : amount ≤ p.lendSupply

/-- What an accepted action leaves and releases. -/
inductive Effect (p : Pool) (s : Scene) : Action → Transition → Prop where
  | depositLend {amount : Nat} (deposit : p.Deposits s p.settleToken amount)
      (fits : p.lendSupply + amount ≤ p.maxSupply) :
      Effect p s .depositLend {
        pool := p.stake s.caller amount
        payout := { recipient := s.caller }
        events := [.lendDeposited s.caller s.id p.settleToken amount] }
  | depositBorrow {amount : Nat} (deposit : p.Deposits s p.pledgeToken amount) :
      Effect p s .depositBorrow {
        pool := p.pledge s.caller amount
        payout := { recipient := s.caller }
        events := [.borrowDeposited s.caller s.id p.pledgeToken amount] }
  | cancelLend {amount : Nat} (cancel : p.Cancels s amount) :
      Effect p s (.cancelLend amount) {
        pool := p.unstake s.caller amount
        payout := { recipient := s.caller, settle := amount }
        events := [.lendCancelled s.caller s.id amount] }
  | refundPart {amount : Nat} (cancel : p.Cancels s amount) :
      Effect p s (.refundLend (some amount)) {
        pool := p.unstake s.caller amount
        payout := { recipient := s.caller, settle := amount }
        events := [.lendCancelled s.caller s.id amount] }
  | refundRest (settled : p.phase.isSettled = true) (staked : 0 < (p.lendPosition s.caller).stake)
      (unclaimed : (p.lendPosition s.caller).claimed = false)
      (unrefunded : (p.lendPosition s.caller).refunded = false) :
      Effect p s (.refundLend none) {
        pool := p.setLending s.caller { p.lendPosition s.caller with refunded := true }
        payout := { recipient := s.caller, settle := p.unmatchedOf (p.lendPosition s.caller).stake }
        events := [.lendRefunded s.caller s.id (p.unmatchedOf (p.lendPosition s.caller).stake)] }
  | claimLend (settled : p.phase.isSettled = true) (staked : 0 < (p.lendPosition s.caller).stake)
      (unclaimed : (p.lendPosition s.caller).claimed = false) :
      Effect p s .claimLend {
        pool := p.setLending s.caller
          { p.lendPosition s.caller with
            claimed := true, refunded := true, receipts := p.receiptsOf (p.lendPosition s.caller).stake }
        payout := {
          recipient := s.caller, settle := p.refundOf (p.lendPosition s.caller)
          mintLend := p.receiptsOf (p.lendPosition s.caller).stake }
        events :=
          (if 0 < p.refundOf (p.lendPosition s.caller) then
            [.lendRefunded s.caller s.id (p.refundOf (p.lendPosition s.caller))] else [])
          ++ [.lendClaimed s.caller s.id (p.receiptsOf (p.lendPosition s.caller).stake)] }
  | claimBorrow (settled : p.phase.isSettled = true) (pledged : 0 < (p.borrowPosition s.caller).pledge)
      (unclaimed : (p.borrowPosition s.caller).claimed = false) (supplied : p.borrowSupply ≠ 0) :
      Effect p s .claimBorrow {
        pool := p.setBorrowing s.caller
          { p.borrowPosition s.caller with
            claimed := true, borrowed := p.drawnOf (p.borrowPosition s.caller).pledge
            receipts := p.pledgeReceiptsOf (p.borrowPosition s.caller).pledge }
        payout := {
          recipient := s.caller, settle := p.drawnOf (p.borrowPosition s.caller).pledge
          mintBorrow := p.pledgeReceiptsOf (p.borrowPosition s.caller).pledge }
        events := [.borrowClaimed s.caller s.id (p.drawnOf (p.borrowPosition s.caller).pledge)
          (p.pledgeReceiptsOf (p.borrowPosition s.caller).pledge)] }
  | withdrawLend {receipts : Nat} (finished : p.phase = .finished) (paid : receiptsPaid s s.lendToken = .ok receipts)
      (lent : 0 < p.matchedLend) :
      Effect p s .withdrawLend {
        pool := p
        payout := { recipient := s.caller, burnLend := receipts, pledge := p.lendPayoutOf receipts }
        events := [.lendWithdrawn s.caller s.id receipts (p.lendPayoutOf receipts)] }
  | withdrawBorrow {receipts : Nat} (finished : p.phase = .finished)
      (paid : receiptsPaid s s.borrowToken = .ok receipts) (supplied : 0 < p.borrowSupply) :
      Effect p s .withdrawBorrow {
        pool := p
        payout := { recipient := s.caller, burnBorrow := receipts, pledge := p.borrowPayoutOf receipts }
        events := [.borrowWithdrawn s.caller s.id receipts (p.borrowPayoutOf receipts)] }
  | settle {amounts : Amounts} (matching : p.phase = .matching) (due : p.settleTime ≤ s.now)
      (settled : p.settledAmounts s = .ok amounts) :
      Effect p s .settle {
        pool := p.setAmounts amounts .running
        payout := { recipient := s.caller }
        events := [
          .phaseChanged s.id .matching .running,
          .poolSettled s.id amounts.matchedLend amounts.matchedBorrow] }
  | finish {parts : Split} (running : p.phase = .running) (due : p.endTime ≤ s.now) (split : p.split s = .ok parts) :
      Effect p s .finish {
        pool := p.setAmounts { p.toAmounts with finishLend := parts.lend, finishBorrow := parts.borrow } .finished
        payout := { recipient := s.feeAddress, pledge := parts.fees }
        events := [
          .phaseChanged s.id .running .finished,
          .poolFinished s.id parts.lend parts.borrow] }
  | liquidate {health : Nat} (running : p.phase = .running) (due : p.settleTime ≤ s.now)
      (read : p.health s = .ok health) (small : p.liquidationThreshold ≤ maxI64)
      (low : health < p.liquidationThreshold) :
      Effect p s .liquidate {
        pool := p.setAmounts
          { p.toAmounts with
            recoveryLend := bpsOf p.borrowSupply penaltyBps
            recoveryBorrow := p.borrowSupply - bpsOf p.borrowSupply rewardBps - bpsOf p.borrowSupply penaltyBps }
          .liquidated
        payout := { recipient := s.caller, pledge := bpsOf p.borrowSupply rewardBps }
        events := [
          .phaseChanged s.id .running .liquidated,
          .poolLiquidated s.caller s.id health (bpsOf p.borrowSupply rewardBps) (bpsOf p.borrowSupply penaltyBps)
            (p.borrowSupply - bpsOf p.borrowSupply rewardBps - bpsOf p.borrowSupply penaltyBps)] }
  | recoverLend (liquidated : p.phase = .liquidated) (staked : 0 < (p.lendPosition s.caller).stake)
      (unrecovered : (p.lendPosition s.caller).recovered = false) :
      Effect p s .recoverLend {
        pool := p.setLending s.caller { p.lendPosition s.caller with recovered := true }
        payout := { recipient := s.caller, pledge := p.lendRecoveryOf (p.lendPosition s.caller).stake }
        events := [.lendRecovered s.caller s.id (p.lendRecoveryOf (p.lendPosition s.caller).stake)] }
  | recoverBorrow (liquidated : p.phase = .liquidated) (pledged : 0 < (p.borrowPosition s.caller).pledge)
      (unrecovered : (p.borrowPosition s.caller).recovered = false) :
      Effect p s .recoverBorrow {
        pool := p.setBorrowing s.caller { p.borrowPosition s.caller with recovered := true }
        payout := { recipient := s.caller, pledge := p.borrowRecoveryOf (p.borrowPosition s.caller).pledge }
        events := [.borrowRecovered s.caller s.id (p.borrowRecoveryOf (p.borrowPosition s.caller).pledge)] }

theorem act_effect (accepted : p.act s action = .ok t) : p.Effect s action t := by
  cases action with
  | depositLend =>
    obtain ⟨amount, deposit, fits, rfl⟩ := depositLend_eq_ok_iff.1 accepted
    exact .depositLend deposit fits
  | cancelLend amount =>
    obtain ⟨matching, early, positive, held, covered, rfl⟩ := cancelLend_eq_ok_iff.1 accepted
    exact .cancelLend ⟨matching, early, positive, held, covered⟩
  | refundLend amount =>
    cases amount with
    | some amount =>
      obtain ⟨matching, early, positive, held, covered, rfl⟩ := cancelLend_eq_ok_iff.1 accepted
      exact .refundPart ⟨matching, early, positive, held, covered⟩
    | none =>
      obtain ⟨settled, staked, unclaimed, unrefunded, _, _, rfl⟩ := refundUnmatched_eq_ok_iff.1 accepted
      exact .refundRest settled staked unclaimed unrefunded
  | claimLend =>
    obtain ⟨settled, staked, unclaimed, _, rfl⟩ := claimLend_eq_ok_iff.1 accepted
    exact .claimLend settled staked unclaimed
  | withdrawLend =>
    obtain ⟨receipts, finished, paid, lent, rfl⟩ := withdrawLend_eq_ok_iff.1 accepted
    exact .withdrawLend finished paid lent
  | depositBorrow =>
    obtain ⟨amount, deposit, rfl⟩ := depositBorrow_eq_ok_iff.1 accepted
    exact .depositBorrow deposit
  | claimBorrow =>
    obtain ⟨settled, pledged, unclaimed, supplied, rfl⟩ := claimBorrow_eq_ok_iff.1 accepted
    exact .claimBorrow settled pledged unclaimed supplied
  | withdrawBorrow =>
    obtain ⟨receipts, finished, paid, supplied, rfl⟩ := withdrawBorrow_eq_ok_iff.1 accepted
    exact .withdrawBorrow finished paid supplied
  | settle =>
    obtain ⟨amounts, matching, due, settled, rfl⟩ := settle_eq_ok_iff.1 accepted
    exact .settle matching due settled
  | finish =>
    obtain ⟨parts, running, due, split, rfl⟩ := finish_eq_ok_iff.1 accepted
    exact .finish running due split
  | liquidate =>
    obtain ⟨health, running, read, due, small, low, rfl⟩ := liquidate_eq_ok_iff.1 accepted
    exact .liquidate running due read small low
  | recoverLend =>
    obtain ⟨liquidated, staked, unrecovered, _, _, rfl⟩ := recoverLend_eq_ok_iff.1 accepted
    exact .recoverLend liquidated staked unrecovered
  | recoverBorrow =>
    obtain ⟨liquidated, pledged, unrecovered, _, rfl⟩ := recoverBorrow_eq_ok_iff.1 accepted
    exact .recoverBorrow liquidated pledged unrecovered

end TermLending.Pool
