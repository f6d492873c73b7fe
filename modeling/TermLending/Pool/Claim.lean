import TermLending.Pool.Basic

/-!
# Claims

After settlement the matched part of a stake turns into receipts and the rest goes back, once. Borrowers get their
part of the loan and one receipt for each unit of their pledge. Receipts of a finished pool are redeemed for the
pledge. A liquidated pool creates no receipts, since it pays without them.
-/

namespace TermLending.Pool

/-- The part of a stake that was lent out. -/
def matched (p : Pool) (stake : Nat) : Except Fault Nat :=
  if p.lendSupply = 0 then .ok 0 else mulDiv stake p.matchedLend p.lendSupply

/-- The part of a stake that found no borrower. -/
def unmatched (p : Pool) (stake : Nat) : Except Fault Nat :=
  if p.lendSupply = 0 then .ok 0 else do
    let unmatchedSupply ← difference p.lendSupply p.matchedLend
    mulDiv stake unmatchedSupply p.lendSupply

/-- The part of the loan that a pledge draws. -/
def drawn (p : Pool) (pledge : Nat) : Except Fault Nat := mulDiv pledge p.matchedLend p.borrowSupply

/-- Pays back what found no borrower, without a claim. -/
def refundUnmatched (p : Pool) (s : Scene) : Except Fault Transition := do
  demand p.phase.isSettled .wrongPhase
  let position := p.lendPosition s.caller
  demand position.isOpen .noLendPosition
  demand (position.claimed = false) .alreadyClaimed
  demand (position.refunded = false) .alreadyRefunded
  let refund ← p.unmatched position.stake
  demand (0 < refund) .nothingToRefund
  return {
    pool := p.setLending s.caller { position with refunded := true }
    payout := { recipient := s.caller, settle := refund }
    events := [.lendRefunded s.caller s.id refund] }

/-- The receipts that a claim creates for a stake. -/
def receiptsFor (p : Pool) (stake : Nat) : Except Fault Nat :=
  if p.phase = .liquidated then .ok 0 else p.matched stake

/-- What a claim still pays back of a stake. -/
def refundFor (p : Pool) (position : LendPosition) : Except Fault Nat :=
  if position.refunded then .ok 0 else p.unmatched position.stake

def claimLend (p : Pool) (s : Scene) : Except Fault Transition := do
  demand p.phase.isSettled .wrongPhase
  let position := p.lendPosition s.caller
  demand position.isOpen .noLendPosition
  demand (position.claimed = false) .alreadyClaimed
  let receipts ← p.receiptsFor position.stake
  let refund ← p.refundFor position
  return {
    pool := p.setLending s.caller { position with claimed := true, refunded := true, receipts }
    payout := { recipient := s.caller, settle := refund, mintLend := receipts }
    events := (if 0 < refund then [.lendRefunded s.caller s.id refund] else [])
      ++ [.lendClaimed s.caller s.id receipts] }

def claimBorrow (p : Pool) (s : Scene) : Except Fault Transition := do
  demand p.phase.isSettled .wrongPhase
  let position := p.borrowPosition s.caller
  demand position.isOpen .noBorrowPosition
  demand (position.claimed = false) .alreadyClaimed
  let borrowed ← p.drawn position.pledge
  let receipts := if p.phase = .liquidated then 0 else position.pledge
  return {
    pool := p.setBorrowing s.caller { position with claimed := true, borrowed, receipts }
    payout := { recipient := s.caller, settle := borrowed, mintBorrow := receipts }
    events := [.borrowClaimed s.caller s.id borrowed receipts] }

/-! ### Redeeming receipts -/

/-- The amount of a payment in receipts of the given token. -/
def receiptsPaid (s : Scene) (token : Except Fault Token) : Except Fault Nat := do
  let token ← token
  let payment ← soleToken s.attached
  demand (payment.token = token) .wrongPaymentToken
  demand (0 < payment.amount) .zeroAmount
  return payment.amount

/-- The pledge that lenders' receipts are worth. -/
def lendPayout (p : Pool) (receipts : Nat) : Except Fault Nat := mulDiv receipts p.finishLend p.matchedLend

/-- The pledge that borrowers' receipts are worth. -/
def borrowPayout (p : Pool) (receipts : Nat) : Except Fault Nat := mulDiv receipts p.finishBorrow p.borrowSupply

def withdrawLend (p : Pool) (s : Scene) : Except Fault Transition := do
  demand (p.phase = .finished) .wrongPhase
  let receipts ← receiptsPaid s s.lendToken
  demand (0 < p.matchedLend) .noLendPosition
  let pledge ← p.lendPayout receipts
  return {
    pool := p
    payout := { recipient := s.caller, burnLend := receipts, pledge }
    events := [.lendWithdrawn s.caller s.id receipts pledge] }

def withdrawBorrow (p : Pool) (s : Scene) : Except Fault Transition := do
  demand (p.phase = .finished) .wrongPhase
  let receipts ← receiptsPaid s s.borrowToken
  demand (0 < p.borrowSupply) .noBorrowPosition
  let pledge ← p.borrowPayout receipts
  return {
    pool := p
    payout := { recipient := s.caller, burnBorrow := receipts, pledge }
    events := [.borrowWithdrawn s.caller s.id receipts pledge] }

end TermLending.Pool
