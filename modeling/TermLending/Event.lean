import TermLending.Digest
import TermLending.Phase
import TermLending.Token

/-!
# Events

What contracts announce. An event has a name and a row of data; a log entry adds the contract that announced it.
-/

namespace TermLending

inductive Event where
  -- approval registry
  | applicationOpened (applicant target : Address) (digest : Digest) (index : Nat)
  | applicationSigned (signer : Address) (digest : Digest) (index : Nat)
  | signatureRevoked (signer : Address) (digest : Digest) (index : Nat)
  -- price oracle
  | priceSet (id price : Nat)
  | feedSet (id : Nat) (feed : Address) (tokenDecimals : Nat)
  | divisorSet (divisor : Nat)
  -- receipt tokens
  | minterAdded (minter : Address)
  | minterRemoved (minter : Address)
  | receiptsMinted (minter owner : Address) (amount : Nat)
  | receiptsBurned (minter owner : Address) (amount : Nat)
  -- life of a pool
  | poolCreated (id : Nat) (settleToken pledgeToken : Token)
      (settleTime endTime interestRate maxSupply mortgageRate liquidationThreshold : Nat)
  | phaseChanged (id : Nat) (before after : Phase)
  | poolSettled (id matchedLend matchedBorrow : Nat)
  | poolFinished (id finishLend finishBorrow : Nat)
  | poolLiquidated (liquidator : Address) (id health reward recoveryLend recoveryBorrow : Nat)
  -- lenders and borrowers
  | lendDeposited (user : Address) (id : Nat) (token : Token) (amount : Nat)
  | lendCancelled (user : Address) (id amount : Nat)
  | lendRefunded (user : Address) (id amount : Nat)
  | lendClaimed (user : Address) (id receipts : Nat)
  | lendWithdrawn (user : Address) (id receipts payout : Nat)
  | borrowDeposited (user : Address) (id : Nat) (token : Token) (amount : Nat)
  | borrowClaimed (user : Address) (id borrowed receipts : Nat)
  | borrowWithdrawn (user : Address) (id receipts payout : Nat)
  | lendRecovered (user : Address) (id amount : Nat)
  | borrowRecovered (user : Address) (id amount : Nat)
  -- settings of the pools
  | oracleSet (oracle : Address)
  | feesSet (lendFee borrowFee : Nat)
  | feeAddressSet (feeAddress : Address)
  | minDepositSet (amount : Nat)
  | pauseSet (paused : Bool)
  | pausedByDeployer
  | resumedByDeployer
  deriving DecidableEq, Repr

structure LogEntry where
  source : Address
  event : Event
  deriving DecidableEq, Repr

/-- One item of an event's row of data. -/
inductive Datum where
  | number (n : Nat)
  | flag (b : Bool)
  | address (a : Address)
  | token (t : Token)
  | digest (d : Digest)
  | phase (p : Phase)
  deriving DecidableEq, Repr

namespace Event

def name : Event → String
  | applicationOpened .. => "create_application"
  | applicationSigned .. => "sign_application"
  | signatureRevoked .. => "revoke_application"
  | priceSet .. => "price_set"
  | feedSet .. => "aggregator_set"
  | divisorSet .. => "decimals_set"
  | minterAdded .. => "minter_added"
  | minterRemoved .. => "minter_removed"
  | receiptsMinted .. => "debt_minted"
  | receiptsBurned .. => "debt_burned"
  | poolCreated .. => "create_pool"
  | phaseChanged .. => "pool_state_change"
  | poolSettled .. => "settle"
  | poolFinished .. => "finish"
  | poolLiquidated .. => "liquidation_triggered"
  | lendDeposited .. => "deposit_lend"
  | lendCancelled .. => "cancel_lend"
  | lendRefunded .. => "refund_lend"
  | lendClaimed .. => "claim_lend"
  | lendWithdrawn .. => "withdraw_lend"
  | borrowDeposited .. => "deposit_borrow"
  | borrowClaimed .. => "claim_borrow"
  | borrowWithdrawn .. => "withdraw_borrow"
  | lendRecovered .. => "withdraw_lend_after_liquidation"
  | borrowRecovered .. => "withdraw_borrow_after_liquidation"
  | oracleSet .. => "set_oracle"
  | feesSet .. => "set_fee"
  | feeAddressSet .. => "set_fee_address"
  | minDepositSet .. => "set_min_amount"
  | pauseSet .. => "set_pause"
  | pausedByDeployer => "pauseContract"
  | resumedByDeployer => "unpauseContract"

def data : Event → List Datum
  | applicationOpened applicant target digest index =>
      [.address applicant, .address target, .digest digest, .number index]
  | applicationSigned signer digest index | signatureRevoked signer digest index =>
      [.address signer, .digest digest, .number index]
  | priceSet id price => [.number id, .number price]
  | feedSet id feed decimals => [.number id, .address feed, .number decimals]
  | divisorSet divisor => [.number divisor]
  | minterAdded minter | minterRemoved minter => [.address minter]
  | receiptsMinted minter owner amount | receiptsBurned minter owner amount =>
      [.address minter, .address owner, .number amount]
  | poolCreated id settleToken pledgeToken settleTime endTime interestRate maxSupply mortgageRate threshold =>
      [.number id, .token settleToken, .token pledgeToken, .number settleTime, .number endTime,
       .number interestRate, .number maxSupply, .number mortgageRate, .number threshold]
  | phaseChanged id before after => [.number id, .phase before, .phase after]
  | poolSettled id lend borrow | poolFinished id lend borrow => [.number id, .number lend, .number borrow]
  | poolLiquidated liquidator id health reward lend borrow =>
      [.address liquidator, .number id, .number health, .number reward, .number lend, .number borrow]
  | lendDeposited user id token amount | borrowDeposited user id token amount =>
      [.address user, .number id, .token token, .number amount]
  | lendCancelled user id amount | lendRefunded user id amount | lendClaimed user id amount
  | lendRecovered user id amount | borrowRecovered user id amount =>
      [.address user, .number id, .number amount]
  | lendWithdrawn user id amount other | borrowClaimed user id amount other
  | borrowWithdrawn user id amount other =>
      [.address user, .number id, .number amount, .number other]
  | oracleSet account | feeAddressSet account => [.address account]
  | feesSet lendFee borrowFee => [.number lendFee, .number borrowFee]
  | minDepositSet amount => [.number amount]
  | pauseSet paused => [.flag paused]
  | pausedByDeployer | resumedByDeployer => []

end Event

end TermLending
