import TermLending.Arith.Interest
import TermLending.Pool.Basic

/-!
# Settlement and maturity

At settle time the two sides are matched at current prices: lenders get in as far as the pledge carries their loan
at the mortgage rate. At maturity the pledge is split: lenders get the worth of principal and interest, borrowers
the rest, and fees are taken from both.
-/

namespace TermLending.Pool

/-- The settle tokens that a pledge can carry at the mortgage rate. -/
def capacity (p : Pool) (pledged : Nat) (prices : Prices) : Except Fault Nat := do
  let rate ← signed64 p.mortgageRate
  mulDiv (pledged * prices.pledge) bpsWhole (prices.settle * rate)

/-- How much of each side is matched. The side worth more gets in as far as the other reaches. -/
def matchSides (p : Pool) (prices : Prices) : Except Fault (Nat × Nat) := do
  let capacity ← p.capacity p.borrowSupply prices
  if capacity < p.lendSupply then return (capacity, p.borrowSupply)
  else
    let rate ← signed64 p.mortgageRate
    let borrow ← mulDiv (p.lendSupply * rate) prices.settle (prices.pledge * bpsWhole)
    return (p.lendSupply, borrow)

/-- The amounts of a settled pool. Nothing is matched when one side is empty, and then no price is needed. -/
def settledAmounts (p : Pool) (s : Scene) : Except Fault Amounts :=
  if p.lendSupply = 0 ∨ p.borrowSupply = 0 then .ok p.toAmounts
  else do
    let prices ← s.positivePrices
    let (lend, borrow) ← p.matchSides prices
    return { p.toAmounts with matchedLend := lend, matchedBorrow := borrow }

def settle (p : Pool) (s : Scene) : Except Fault Transition := do
  demand (p.phase = .matching) .wrongPhase
  demand (p.canSettle s.now) .settleTimeNotReached
  let amounts ← p.settledAmounts s
  return {
    pool := p.setAmounts amounts .running
    payout := { recipient := s.caller }
    events := [
      .phaseChanged s.id .matching .running,
      .poolSettled s.id amounts.matchedLend amounts.matchedBorrow] }

/-- The part of the pledge that pays principal and interest for the whole term, at most all of it. -/
def lendersPledge (p : Pool) (prices : Prices) : Except Fault Nat := do
  let term ← difference p.endTime p.settleTime
  let due ← Interest.due p.matchedLend p.interestRate term
  let owed ← mulDiv due prices.settle prices.pledge
  return min owed p.borrowSupply

/-- Lenders without a matched stake are owed nothing, and then no price is needed. -/
def pledgeForLenders (p : Pool) (s : Scene) : Except Fault Nat :=
  if p.matchedLend = 0 then .ok 0
  else do
    let prices ← s.positivePrices
    p.lendersPledge prices

/-- How the pledge is split at maturity: the lenders' part, the borrowers' part, and the fees of both. -/
structure Split where
  lend : Nat
  borrow : Nat
  fees : Nat
  deriving DecidableEq, Repr

def split (p : Pool) (s : Scene) : Except Fault Split := do
  let forLenders ← p.pledgeForLenders s
  let lendFee ← applyBps forLenders s.fees.lend
  let forBorrowers ← difference p.borrowSupply forLenders
  let borrowFee ← applyBps forBorrowers s.fees.borrow
  let lend ← difference forLenders lendFee
  let borrow ← difference forBorrowers borrowFee
  return { lend, borrow, fees := lendFee + borrowFee }

def finish (p : Pool) (s : Scene) : Except Fault Transition := do
  demand (p.phase = .running) .wrongPhase
  demand (p.canFinish s.now) .endTimeNotReached
  let split ← p.split s
  return {
    pool := p.setAmounts { p.toAmounts with finishLend := split.lend, finishBorrow := split.borrow } .finished
    payout := { recipient := s.feeAddress, pledge := split.fees }
    events := [
      .phaseChanged s.id .running .finished,
      .poolFinished s.id split.lend split.borrow] }

end TermLending.Pool
