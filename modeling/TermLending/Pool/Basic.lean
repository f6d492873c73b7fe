import TermLending.Arith.Checked
import TermLending.Data.Pointwise
import TermLending.Data.Roster
import TermLending.Event

/-!
# Pools

A pool is one loan at a fixed rate for a fixed term. Lenders bring the settle token, borrowers pledge another token
against it. The terms never change; the totals grow and shrink while the pool is matching and are final afterwards;
the amounts are fixed at settlement and when the pool ends. Each user has at most one position on each side.
-/

namespace TermLending

structure Terms where
  /-- Deposits close and settlement opens. -/
  settleTime : Nat
  /-- Interest stops and repayment opens. -/
  endTime : Nat
  /-- Basis points a year. -/
  interestRate : Nat
  /-- The most that lenders may bring together. -/
  maxSupply : Nat
  /-- The value of the pledge that a loan needs, in basis points of the loan. -/
  mortgageRate : Nat
  settleToken : Token
  pledgeToken : Token
  /-- The contract of the lenders' receipts. -/
  lendReceipt : Address
  /-- The contract of the borrowers' receipts. -/
  borrowReceipt : Address
  /-- The health below which the pool may be closed early, in basis points. -/
  liquidationThreshold : Nat
  deriving DecidableEq, Repr

/-- What is published of a pool: its terms, what both sides brought, and its phase. -/
structure Loan extends Terms where
  lendSupply : Nat := 0
  borrowSupply : Nat := 0
  phase : Phase := .matching
  deriving DecidableEq, Repr

/-- The outcome of a pool. Matched amounts are fixed at settlement, the others by one of its two endings. -/
structure Amounts where
  matchedLend : Nat := 0
  matchedBorrow : Nat := 0
  finishLend : Nat := 0
  finishBorrow : Nat := 0
  recoveryLend : Nat := 0
  recoveryBorrow : Nat := 0
  deriving DecidableEq, Repr

structure LendPosition where
  stake : Nat := 0
  /-- Receipts created for the matched part of the stake. -/
  receipts : Nat := 0
  claimed : Bool := false
  refunded : Bool := false
  recovered : Bool := false
  deriving DecidableEq, Repr

structure BorrowPosition where
  pledge : Nat := 0
  borrowed : Nat := 0
  /-- Receipts created for the pledge. -/
  receipts : Nat := 0
  claimed : Bool := false
  recovered : Bool := false
  deriving DecidableEq, Repr

/-- The health of a pool, with what it follows from. -/
structure HealthReport where
  health : Nat
  threshold : Nat
  liquidatable : Bool
  pledged : Nat
  borrowed : Nat
  deriving DecidableEq, Repr

/--
All that is kept of a pool. A market stores its loans and its amounts as two lists. Both get one entry when a pool is
created and keep it for good, so they have the same length at all times. Here the two entries of one number are one
record, with the rosters and the positions that are stored under that number.
-/
structure Pool extends Loan, Amounts where
  lenders : Roster Address := {}
  borrowers : Roster Address := {}
  lending : Address → Option LendPosition := fun _ => none
  borrowing : Address → Option BorrowPosition := fun _ => none

/-- The values of one whole settle token and one whole pledge token. -/
structure Prices where
  settle : Nat
  pledge : Nat
  deriving DecidableEq, Repr

/-- What is taken at maturity from each side's part of the pledge, in basis points. -/
structure Fees where
  lend : Nat := 0
  borrow : Nat := 0
  deriving DecidableEq, Repr

namespace LendPosition

def isOpen (p : LendPosition) : Bool := 0 < p.stake

end LendPosition

namespace BorrowPosition

def isOpen (p : BorrowPosition) : Bool := 0 < p.pledge

end BorrowPosition

namespace Loan

variable (l : Loan) (now : Nat)

def acceptsDeposits : Bool := l.phase = .matching && now < l.settleTime

def canSettle : Bool := l.settleTime ≤ now

def canFinish : Bool := l.endTime ≤ now

/-- The seconds that earn interest: from settlement on, never past the end. -/
def interestElapsed : Nat := min now l.endTime - l.settleTime

end Loan

namespace Pool

variable (p : Pool)

/-- The lend position of a user, empty where none is stored. -/
def lendPosition (user : Address) : LendPosition := (p.lending user).getD {}

/-- The borrow position of a user, empty where none is stored. -/
def borrowPosition (user : Address) : BorrowPosition := (p.borrowing user).getD {}

def setLending (user : Address) (position : LendPosition) : Pool :=
  { p with lending := put p.lending user (some position) }

def setBorrowing (user : Address) (position : BorrowPosition) : Pool :=
  { p with borrowing := put p.borrowing user (some position) }

def setAmounts (amounts : Amounts) (phase : Phase) : Pool := { p with toAmounts := amounts, phase }

end Pool

/-- What a pool releases to one account: receipts handed in, then tokens and receipts handed out. -/
structure Payout where
  recipient : Address
  burnLend : Nat := 0
  burnBorrow : Nat := 0
  settle : Nat := 0
  mintLend : Nat := 0
  mintBorrow : Nat := 0
  pledge : Nat := 0
  deriving DecidableEq, Repr

/-- What an accepted action does: the pool afterwards, what is released, and what is announced. -/
structure Transition where
  pool : Pool
  payout : Payout
  events : List Event

/-- What a pool sees of a call, of its own settings and of the contracts around it. Answers of other contracts are
there whether or not the action asks for them; one that asks fails when the answer is a fault. -/
structure Scene where
  id : Nat
  caller : Address
  now : Nat
  attached : List Payment
  paused : Bool
  minDeposit : Nat
  fees : Fees
  feeAddress : Address
  prices : Except Fault Prices
  lendToken : Except Fault Token
  borrowToken : Except Fault Token

namespace Scene

/-- The payment of a call that takes the native coin or one token; without any, nothing of the native coin. -/
def payment (s : Scene) : Except Fault Payment :=
  match s.attached with
  | [] => .ok ⟨.native, 0⟩
  | [payment] => .ok payment
  | _ => .error .wrongTransferCount

/-- The value of both tokens, none of it zero. -/
def positivePrices (s : Scene) : Except Fault Prices := do
  let prices ← s.prices
  demand (0 < prices.settle ∧ 0 < prices.pledge) .priceUnavailable
  return prices

end Scene

/-- The payment of a call that takes exactly one token, which is not the native coin. -/
def soleToken (attached : List Payment) : Except Fault Payment :=
  match attached with
  | [payment] => if payment.token = .native then .error .wrongTransferCount else .ok payment
  | _ => .error .wrongTransferCount

end TermLending
