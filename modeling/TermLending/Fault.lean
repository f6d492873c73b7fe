/-!
# Faults

Why a call fails. A fault is a cause; `Fault.message` is its wording, and `Fault.origin` says who raised it: the
code of a contract, the chain beneath it, the lookup of a function, or an arithmetic operation without a value.
-/

namespace TermLending

inductive Fault where
  -- authorization
  | notSigner
  | notApproved
  | notMinter
  | notDeployer
  -- approval registry
  | noSigners
  | duplicateSigner
  | invalidThreshold
  | applicationNotFound
  | alreadySigned
  | notSigned
  | zeroRegistry
  -- validity of arguments and payments
  | zeroAddress
  | zeroAmount
  | lengthMismatch
  | indexOutOfBounds
  | poolNotFound
  | wrongPaymentToken
  | invalidToken
  | sameTokens
  | sameReceipts
  | receiptInUse
  | invalidEndTime
  | invalidLiquidationThreshold
  | invalidInterestRate
  | invalidMaxSupply
  | invalidFee
  | zeroUnderlying
  | zeroDivisor
  | priceUnavailable
  | tokenNotIssued
  | tokenAlreadySet
  -- phase of a pool and of a position
  | wrongPhase
  | depositsClosed
  | settleTimeNotReached
  | endTimeNotReached
  | alreadyClaimed
  | alreadyRefunded
  | alreadyWithdrawn
  | paused
  | notLiquidatable
  -- amounts
  | exceedsMaxSupply
  | belowMinimum
  | insufficientStake
  | nothingToRefund
  | noLendPosition
  | noBorrowPosition
  | paymentMismatch
  -- calls
  | wrongTransferCount
  | tokensRefused
  | tooManyTransfers
  | argumentTooLong (name : String)
  | noResult
  | unknownFunction
  -- chain
  | tokenShortage
  | coinShortage
  | tokenUnwanted
  | coinUnwanted
  | roleMissing
  -- arithmetic
  | negativeDifference
  | outsideSigned64
  | divisionByZero
  deriving DecidableEq, Repr

namespace Fault

inductive Origin where
  | contract
  | chain
  | lookup
  | arithmetic
  deriving DecidableEq, Repr

def origin : Fault → Origin
  | tokenShortage | coinShortage | tokenUnwanted | coinUnwanted | roleMissing => .chain
  | unknownFunction => .lookup
  | divisionByZero => .arithmetic
  | _ => .contract

def message : Fault → String
  | notSigner => "Caller is not a multisig owner."
  | notApproved => "Transaction not approved by multi-signature."
  | notMinter => "Caller is not a minter."
  | notDeployer => "Endpoint can only be called by owner"
  | noSigners => "Owner list cannot be empty."
  | duplicateSigner => "Duplicate owner."
  | invalidThreshold => "Threshold must be between 1 and the number of owners."
  | applicationNotFound => "Application not found."
  | alreadySigned => "Application already signed by this owner."
  | notSigned => "Application not signed by this owner."
  | zeroRegistry => "MultiSignature address cannot be zero."
  | zeroAddress => "Address cannot be zero."
  | zeroAmount => "Amount must be greater than zero."
  | lengthMismatch => "Arrays length mismatch."
  | indexOutOfBounds => "Index out of bounds."
  | poolNotFound => "Pool does not exist."
  | wrongPaymentToken => "Invalid payment token."
  | invalidToken => "Invalid token."
  | sameTokens => "Settle token and pledge token must differ."
  | sameReceipts => "sp and jp receipt tokens must differ."
  | receiptInUse => "Receipt token already bound to a pool."
  | invalidEndTime => "Settle time must be before end time."
  | invalidLiquidationThreshold => "Liquidation threshold must be lower than the mortgage rate."
  | invalidInterestRate => "Invalid interest rate."
  | invalidMaxSupply => "Max supply must be greater than zero."
  | invalidFee => "Fee cannot exceed 100%."
  | zeroUnderlying => "Underlying cannot be zero."
  | zeroDivisor => "Decimals divisor cannot be zero."
  | priceUnavailable => "Oracle price unavailable."
  | tokenNotIssued => "Token not issued."
  | tokenAlreadySet => "Token ID already set"
  | wrongPhase => "Wrong pool state."
  | depositsClosed => "Deposits closed after settle time."
  | settleTimeNotReached => "Settle time not reached."
  | endTimeNotReached => "End time not reached."
  | alreadyClaimed => "Already claimed."
  | alreadyRefunded => "Already refunded."
  | alreadyWithdrawn => "Already withdrawn."
  | paused => "Protocol is paused."
  | notLiquidatable => "Pool cannot be liquidated."
  | exceedsMaxSupply => "Deposit exceeds max supply."
  | belowMinimum => "Amount below minimum deposit."
  | insufficientStake => "Insufficient balance."
  | nothingToRefund => "No refund needed."
  | noLendPosition => "No lending position."
  | noBorrowPosition => "No borrowing position."
  | paymentMismatch => "Payment amount mismatch."
  | wrongTransferCount => "incorrect number of ESDT transfers"
  | tokensRefused => "function does not accept ESDT payment"
  | tooManyTransfers => "incorrect number of transfers"
  | argumentTooLong name => "argument decode error (" ++ name ++ "): input too long"
  | noResult => "argument decode error (sync result): too few arguments"
  | unknownFunction => "invalid function (not found)"
  | tokenShortage => "insufficient funds"
  | coinShortage => "failed transfer (insufficient funds)"
  | tokenUnwanted => "function does not accept ESDT payment"
  | coinUnwanted => "function does not accept EGLD payment"
  | roleMissing => "action is not allowed"
  | negativeDifference => "cannot subtract because result would be negative"
  | outsideSigned64 => "cast to i64 error"
  | divisionByZero => "attempt to divide by zero"

end Fault

/-- Succeeds exactly when the condition holds. -/
def demand (p : Prop) [Decidable p] (fault : Fault) : Except Fault Unit :=
  if p then .ok () else .error fault

section

variable {p : Prop} [Decidable p] {fault : Fault} {α β : Type}

theorem demand_eq_ok_iff {u : Unit} : demand p fault = .ok u ↔ p := by
  unfold demand; split <;> simp_all

theorem demand_of_true (h : p) : demand p fault = .ok () := if_pos h

theorem demand_of_false (h : ¬p) : demand p fault = .error fault := if_neg h

/-- A step of a contract succeeds when its first part does and the rest succeeds on what that part gave. -/
theorem bind_eq_ok_iff {x : Except Fault α} {k : α → Except Fault β} {b : β} :
    (x >>= k) = .ok b ↔ ∃ a, x = .ok a ∧ k a = .ok b := by
  cases x with
  | error e => simp [bind, Except.bind]
  | ok a => simp [bind, Except.bind]

theorem demand_bind_eq_ok_iff {k : Unit → Except Fault β} {b : β} :
    (demand p fault >>= k) = .ok b ↔ p ∧ k () = .ok b := by
  constructor
  · intro h
    obtain ⟨_, hp, h⟩ := bind_eq_ok_iff.1 h
    exact ⟨demand_eq_ok_iff.1 hp, h⟩
  · rintro ⟨hp, h⟩
    rw [demand_of_true hp]
    exact h

end

end TermLending
