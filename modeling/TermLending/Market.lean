import TermLending.Pool.Action

/-!
# Markets

A market is a contract that runs pools. Pools are numbered from one in the order of their creation and are never
removed. A receipt contract serves one side of one pool.
-/

namespace TermLending

structure Market where
  registry : Address := .zero
  oracle : Address := .zero
  fees : Fees := {}
  feeAddress : Address := .zero
  minDeposit : Nat := 0
  paused : Bool := false
  /-- Entry by entry the list of loans and the list of amounts, which only ever grow together. -/
  pools : List Pool := []
  receipts : Roster Address := {}

namespace Market

def establish (registry oracle feeAddress : Address) : Except Fault Market := do
  demand (registry ≠ .zero) .zeroRegistry
  demand (oracle ≠ .zero) .zeroAddress
  demand (feeAddress ≠ .zero) .zeroAddress
  return { registry, oracle, feeAddress }

def pool? (m : Market) : Nat → Option Pool
  | 0 => none
  | i + 1 => m.pools[i]?

def pool (m : Market) (id : Nat) : Except Fault Pool :=
  match m.pool? id with
  | some pool => .ok pool
  | none => .error .poolNotFound

def setPool (m : Market) (id : Nat) (pool : Pool) : Market := { m with pools := m.pools.set (id - 1) pool }

theorem pool_eq_ok_iff {m : Market} {id : Nat} {p : Pool} : m.pool id = .ok p ↔ m.pool? id = some p := by
  unfold pool; split <;> simp_all

/-! ### Creating pools -/

/-- Terms that a pool may have, but for the use of its receipt contracts. -/
def checkTerms (t : Terms) : Except Fault Unit := do
  demand (t.settleTime < t.endTime) .invalidEndTime
  demand (0 < t.interestRate) .invalidInterestRate
  demand (0 < t.maxSupply) .invalidMaxSupply
  demand (0 < t.liquidationThreshold ∧ t.liquidationThreshold < t.mortgageRate) .invalidLiquidationThreshold
  demand (t.settleToken.isValid ∧ t.pledgeToken.isValid) .invalidToken
  demand (t.settleToken ≠ t.pledgeToken) .sameTokens
  demand (t.lendReceipt ≠ .zero ∧ t.borrowReceipt ≠ .zero) .zeroAddress
  demand (t.lendReceipt ≠ t.borrowReceipt) .sameReceipts

/-- Binds a receipt contract that no pool uses yet. -/
def bindReceipt (receipts : Roster Address) (receipt : Address) : Except Fault (Roster Address) := do
  demand (receipt ∉ receipts) .receiptInUse
  return receipts.insert receipt

/-- Appends a pool; its number is the second component. -/
def create (m : Market) (t : Terms) : Except Fault (Market × Nat × Event) := do
  checkTerms t
  let receipts ← bindReceipt m.receipts t.lendReceipt
  let receipts ← bindReceipt receipts t.borrowReceipt
  let id := m.pools.length + 1
  return ({ m with receipts, pools := m.pools ++ [{ toTerms := t }] }, id,
    .poolCreated id t.settleToken t.pledgeToken t.settleTime t.endTime t.interestRate t.maxSupply t.mortgageRate
      t.liquidationThreshold)

/-! ### Settings -/

inductive Setting where
  | oracle (oracle : Address)
  | fees (fees : Fees)
  | feeAddress (feeAddress : Address)
  | minDeposit (amount : Nat)
  | paused (paused : Bool)
  deriving DecidableEq, Repr

/-- The largest fee: all of a side's part. -/
def maxFee : Nat := bpsWhole

def set (m : Market) : Setting → Except Fault (Market × Event)
  | .oracle oracle => do
      demand (oracle ≠ .zero) .zeroAddress
      return ({ m with oracle }, .oracleSet oracle)
  | .fees fees => do
      demand (fees.lend ≤ maxFee ∧ fees.borrow ≤ maxFee) .invalidFee
      return ({ m with fees }, .feesSet fees.lend fees.borrow)
  | .feeAddress feeAddress => do
      demand (feeAddress ≠ .zero) .zeroAddress
      return ({ m with feeAddress }, .feeAddressSet feeAddress)
  | .minDeposit minDeposit => return ({ m with minDeposit }, .minDepositSet minDeposit)
  | .paused paused => return ({ m with paused }, .pauseSet paused)

end Market

end TermLending
