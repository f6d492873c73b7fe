import TermLending.Pool.Liquidation
import TermLending.Pool.Settlement

/-!
# Reading a pool

What a pool answers about itself. Amounts that are not fixed yet are projected from its present state.
-/

namespace TermLending.Pool

/-- Principal and interest so far, in settle tokens; before settlement, as if every stake were matched. -/
def dueNow (p : Pool) (now : Nat) : Except Fault Nat :=
  let principal := if p.phase.isSettled then p.matchedLend else p.lendSupply
  Interest.due principal p.interestRate (p.interestElapsed now)

/-- The pledge that lenders recover from a liquidation, projected until it happens. -/
def lendRecovery (p : Pool) : Nat :=
  if p.phase = .liquidated then p.recoveryLend else bpsOf p.borrowSupply penaltyBps

/-- The settle tokens that a pledge would carry at current prices. -/
def capacityNow (p : Pool) (s : Scene) (pledged : Nat) : Except Fault Nat := do
  let prices ← s.positivePrices
  p.capacity pledged prices

/-- Whether `liquidate` would be accepted. Prices are asked for in a running pool only. -/
def canLiquidate (p : Pool) (s : Scene) : Except Fault Bool :=
  if p.phase = .running then do
    let health ← p.health s
    p.isLiquidatable s.now health
  else .ok false

def healthReport (p : Pool) (s : Scene) : Except Fault HealthReport := do
  let health ← p.health s
  let liquidatable ← p.isLiquidatable s.now health
  return {
    health, threshold := p.liquidationThreshold, liquidatable
    pledged := p.borrowSupply, borrowed := p.matchedLend }

def readyToSettle (p : Pool) (now : Nat) : Bool := p.phase = .matching && p.canSettle now

def readyToFinish (p : Pool) (now : Nat) : Bool := p.phase = .running && p.canFinish now

end TermLending.Pool
