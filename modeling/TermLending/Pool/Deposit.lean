import TermLending.Pool.Basic

/-!
# Deposits

While a pool is matching and its settle time has not come, lenders bring settle tokens and may take them back, and
borrowers pledge.
-/

namespace TermLending.Pool

/-- The amount of a deposit in `token`, when the pool takes it. -/
def acceptDeposit (p : Pool) (s : Scene) (token : Token) : Except Fault Nat := do
  demand (s.paused = false) .paused
  demand (p.phase = .matching) .wrongPhase
  demand (p.acceptsDeposits s.now) .depositsClosed
  let payment ← s.payment
  demand (payment.token = token) .wrongPaymentToken
  demand (0 < payment.amount) .zeroAmount
  demand (s.minDeposit ≤ payment.amount) .belowMinimum
  return payment.amount

/-- Adds to a lend position. -/
def stake (p : Pool) (user : Address) (amount : Nat) : Pool :=
  let position := p.lendPosition user
  { p.setLending user { position with stake := position.stake + amount } with
    lendSupply := p.lendSupply + amount
    lenders := p.lenders.insert user }

/-- Adds to a borrow position. -/
def pledge (p : Pool) (user : Address) (amount : Nat) : Pool :=
  let position := p.borrowPosition user
  { p.setBorrowing user { position with pledge := position.pledge + amount } with
    borrowSupply := p.borrowSupply + amount
    borrowers := p.borrowers.insert user }

def depositLend (p : Pool) (s : Scene) : Except Fault Transition := do
  let amount ← p.acceptDeposit s p.settleToken
  demand (p.lendSupply + amount ≤ p.maxSupply) .exceedsMaxSupply
  return {
    pool := p.stake s.caller amount
    payout := { recipient := s.caller }
    events := [.lendDeposited s.caller s.id p.settleToken amount] }

def depositBorrow (p : Pool) (s : Scene) : Except Fault Transition := do
  let amount ← p.acceptDeposit s p.pledgeToken
  return {
    pool := p.pledge s.caller amount
    payout := { recipient := s.caller }
    events := [.borrowDeposited s.caller s.id p.pledgeToken amount] }

/-- Stores what is left of a stake. A user who has none left is no lender, and has no position. -/
def keepStake (p : Pool) (user : Address) (position : LendPosition) : Pool :=
  if position.isOpen then p.setLending user position
  else { p with lending := put p.lending user none, lenders := p.lenders.erase user }

/-- Takes back a part of the caller's stake. -/
def cancelLend (p : Pool) (s : Scene) (amount : Nat) : Except Fault Transition := do
  demand (p.phase = .matching) .wrongPhase
  demand (p.acceptsDeposits s.now) .depositsClosed
  demand (0 < amount) .zeroAmount
  let position := p.lendPosition s.caller
  demand (amount ≤ position.stake) .insufficientStake
  let stake ← difference position.stake amount
  let lendSupply ← difference p.lendSupply amount
  return {
    pool := { p.keepStake s.caller { position with stake } with lendSupply }
    payout := { recipient := s.caller, settle := amount }
    events := [.lendCancelled s.caller s.id amount] }

end TermLending.Pool
