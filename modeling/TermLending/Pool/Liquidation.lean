import TermLending.Pool.Basic

/-!
# Liquidation

The health of a running pool is the value of its pledge over the value of the loan, in basis points. When it falls
below the threshold anybody may close the pool: the caller gets a reward, lenders a fixed part of the pledge, and
borrowers the rest.
-/

namespace TermLending.Pool

/-- The caller's part of the pledge, in basis points. -/
def rewardBps : Nat := 500

/-- The lenders' part of the pledge, in basis points. -/
def penaltyBps : Nat := 1000

/-- The health of a pool that lent nothing out. -/
def healthWithoutDebt : Nat := maxI64

def health (p : Pool) (s : Scene) : Except Fault Nat :=
  if p.matchedLend = 0 then .ok healthWithoutDebt
  else do
    let prices ← s.positivePrices
    mulDiv (p.borrowSupply * prices.pledge) bpsWhole (p.matchedLend * prices.settle)

/-- Whether the pool may be closed at a given health. The threshold matters only in a settled, running pool. -/
def isLiquidatable (p : Pool) (now health : Nat) : Except Fault Bool :=
  if p.phase = .running ∧ p.canSettle now then do
    let threshold ← signed64 p.liquidationThreshold
    return health < threshold
  else .ok false

def liquidate (p : Pool) (s : Scene) : Except Fault Transition := do
  demand (p.phase = .running) .notLiquidatable
  let health ← p.health s
  let liquidatable ← p.isLiquidatable s.now health
  demand liquidatable .notLiquidatable
  let reward := bpsOf p.borrowSupply rewardBps
  let recoveryLend := bpsOf p.borrowSupply penaltyBps
  let rest ← difference p.borrowSupply reward
  let recoveryBorrow ← difference rest recoveryLend
  return {
    pool := p.setAmounts { p.toAmounts with recoveryLend, recoveryBorrow } .liquidated
    payout := { recipient := s.caller, pledge := reward }
    events := [
      .phaseChanged s.id .running .liquidated,
      .poolLiquidated s.caller s.id health reward recoveryLend recoveryBorrow] }

/-- What a stake recovers: the lenders' part, shared in proportion to the matched stakes. -/
def stakeRecovery (p : Pool) (stake : Nat) : Except Fault Nat := do
  let matched ← mulDiv stake p.matchedLend p.lendSupply
  mulDiv matched p.recoveryLend p.matchedLend

/-- What a pledge recovers: the borrowers' part, shared in proportion to the pledges. -/
def pledgeRecovery (p : Pool) (pledge : Nat) : Except Fault Nat :=
  mulDiv pledge p.recoveryBorrow p.borrowSupply

def recoverLend (p : Pool) (s : Scene) : Except Fault Transition := do
  demand (p.phase = .liquidated) .wrongPhase
  let position := p.lendPosition s.caller
  demand position.isOpen .noLendPosition
  demand (position.recovered = false) .alreadyWithdrawn
  let amount ← p.stakeRecovery position.stake
  return {
    pool := p.setLending s.caller { position with recovered := true }
    payout := { recipient := s.caller, pledge := amount }
    events := [.lendRecovered s.caller s.id amount] }

def recoverBorrow (p : Pool) (s : Scene) : Except Fault Transition := do
  demand (p.phase = .liquidated) .wrongPhase
  let position := p.borrowPosition s.caller
  demand position.isOpen .noBorrowPosition
  demand (position.recovered = false) .alreadyWithdrawn
  let amount ← p.pledgeRecovery position.pledge
  return {
    pool := p.setBorrowing s.caller { position with recovered := true }
    payout := { recipient := s.caller, pledge := amount }
    events := [.borrowRecovered s.caller s.id amount] }

end TermLending.Pool
