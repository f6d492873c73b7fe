import TermLending.Pool.Claim
import TermLending.Pool.Deposit
import TermLending.Pool.Liquidation
import TermLending.Pool.Settlement

/-!
# Actions on a pool

All that can happen to a pool once it exists.
-/

namespace TermLending.Pool

inductive Action where
  | depositLend
  | cancelLend (amount : Nat)
  /-- With an amount, takes back that much of a stake; without one, what found no borrower. -/
  | refundLend (amount : Option Nat)
  | claimLend
  | withdrawLend
  | depositBorrow
  | claimBorrow
  | withdrawBorrow
  | settle
  | finish
  | liquidate
  | recoverLend
  | recoverBorrow
  deriving DecidableEq, Repr

/-- Actions that signers must have approved the caller for. -/
def Action.isGated : Action → Bool
  | settle | finish => true
  | _ => false

def act (p : Pool) (s : Scene) : Action → Except Fault Transition
  | .depositLend => p.depositLend s
  | .cancelLend amount => p.cancelLend s amount
  | .refundLend (some amount) => p.cancelLend s amount
  | .refundLend none => p.refundUnmatched s
  | .claimLend => p.claimLend s
  | .withdrawLend => p.withdrawLend s
  | .depositBorrow => p.depositBorrow s
  | .claimBorrow => p.claimBorrow s
  | .withdrawBorrow => p.withdrawBorrow s
  | .settle => p.settle s
  | .finish => p.finish s
  | .liquidate => p.liquidate s
  | .recoverLend => p.recoverLend s
  | .recoverBorrow => p.recoverBorrow s

end TermLending.Pool
