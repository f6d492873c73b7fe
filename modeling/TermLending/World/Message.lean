import TermLending.World.Basic

/-!
# Messages

What can be asked of contracts. An action may change the world, a query only reads it. Most messages come without a
payment, and some arguments are machine words; a message with a payment that it does not take, or with a number too long
for its word, is refused before the contract sees it.
-/

namespace TermLending

/-- A numeric argument with the largest number it may hold. -/
structure Word where
  name : String
  limit : Nat
  value : Nat

def Word.check (word : Word) : Except Fault Unit :=
  demand (word.value ≤ word.limit) (.argumentTooLong word.name)

/-- Arguments are read in order, and the first one too long is named. -/
def checkWords : List Word → Except Fault Unit
  | [] => .ok ()
  | word :: rest => do
      word.check
      checkWords rest

def u8 (name : String) (value : Nat) : Word := ⟨name, maxU8, value⟩

def u32 (name : String) (value : Nat) : Word := ⟨name, maxU32, value⟩

def u64 (name : String) (value : Nat) : Word := ⟨name, maxU64, value⟩

/-- Refuses a payment where none is taken. Nothing of the native coin is no payment. -/
def refusePayment : List Payment → Except Fault Unit
  | [] => .ok ()
  | [payment] =>
      if payment.token = .native then demand (payment.amount = 0) .coinUnwanted else .error .tokenUnwanted
  | _ => .error .tokenUnwanted

/-! ### Actions -/

inductive Registry.Action where
  | submit (target : Address)
  | sign (digest : Digest) (index : Option Nat)
  | revoke (digest : Digest) (index : Option Nat)

inductive Oracle.Action where
  | setPrice (token : Token) (price : Nat)
  | setPrices (tokens : List Token) (prices : List Nat)
  | setIdPrice (id price : Nat)
  | setFeed (token : Token) (config : FeedConfig)
  | setIdFeed (id : Nat) (config : FeedConfig)
  | setDivisor (divisor : Nat)
  | bindToken (token : Token) (id : Nat)

inductive Receipt.Action where
  | issue (name ticker : List UInt8) (decimals : Nat)
  | mint (owner : Address) (amount : Nat)
  | burn (owner : Address) (amount : Nat)
  | addMinter (minter : Address)
  | removeMinter (minter : Address)

inductive Market.Action where
  | create (terms : Terms)
  | set (setting : Market.Setting)
  /-- The deployer stops and resumes deposits without approval. -/
  | switch (paused : Bool)
  | onPool (id : Nat) (action : Pool.Action)

inductive Action where
  | registry (action : Registry.Action)
  /-- Moves a feed to a new answer. -/
  | feed (answer : Nat)
  | oracle (action : Oracle.Action)
  | receipt (action : Receipt.Action)
  | market (action : Market.Action)

/-- What may be paid along with an action. -/
inductive Fare where
  | nothing
  /-- The native coin or nothing. -/
  | coin
  /-- Whatever the action makes of it. -/
  | anything

namespace Action

def kind : Action → Kind
  | registry _ => .registry
  | feed _ => .feed
  | oracle _ => .oracle
  | receipt _ => .receipt
  | market _ => .market

/-- Actions that only the deployer of a contract may ask for. -/
def isDeployerOnly : Action → Bool
  | feed _ | receipt (.issue ..) | market (.switch _) => true
  | _ => false

def fare : Action → Fare
  | receipt (.issue ..) => .coin
  | receipt (.burn ..) => .anything
  | market (.onPool _ .depositLend) | market (.onPool _ .depositBorrow) => .anything
  | market (.onPool _ .withdrawLend) | market (.onPool _ .withdrawBorrow) => .anything
  | _ => .nothing

def words : Action → List Word
  | registry (.sign _ (some index)) | registry (.revoke _ (some index)) => [u32 "index" index]
  | oracle (.setIdPrice id _) | oracle (.bindToken _ id) => [u64 "underlying" id]
  | oracle (.setFeed _ config) => [u8 "token_decimals" config.tokenDecimals]
  | oracle (.setIdFeed id config) => [u64 "underlying" id, u8 "token_decimals" config.tokenDecimals]
  | receipt (.issue _ _ decimals) => [u32 "num_decimals" decimals]
  | market (.create t) =>
      [u64 "settle_time" t.settleTime, u64 "end_time" t.endTime, u64 "interest_rate" t.interestRate,
       u64 "mortgage_rate" t.mortgageRate, u64 "auto_liquidate_threshold" t.liquidationThreshold]
  | market (.set (.fees fees)) => [u64 "lend_fee" fees.lend, u64 "borrow_fee" fees.borrow]
  | market (.onPool id _) => [u32 "pool_id" id]
  | _ => []

end Action

/-! ### Queries -/

inductive Registry.Query where
  | approval (source target : Address) (start : Nat)
  | digest (source target : Address)
  | count (digest : Digest)
  | application (digest : Digest) (index : Nat)
  | signers
  | isSigner (account : Address)
  | threshold

inductive Feed.Query where
  | decimals
  | answer

inductive Oracle.Query where
  | price (token : Token)
  | prices (tokens : List Token)
  | idPrice (id : Nat)
  | feed (token : Token)
  | idFeed (id : Nat)
  | id (token : Token)
  | divisor

inductive Receipt.Query where
  | token
  | supply
  | balance (account : Address)
  | isMinter (account : Address)
  | minterCount
  | minter (index : Nat)
  | minters

inductive Pool.Query where
  | loan
  | amounts
  | phase
  | prices
  | lendPosition (user : Address)
  | borrowPosition (user : Address)
  | lenders
  | borrowers
  | readyToSettle
  | readyToFinish
  | capacity (pledged : Nat)
  | due
  | lendRecovery
  | health
  | canLiquidate
  | healthReport

inductive Market.Query where
  | count
  | settings
  | paused
  | oracle
  | receipts
  | onPool (id : Nat) (query : Pool.Query)

inductive Query where
  | registry (query : Registry.Query)
  | feed (query : Feed.Query)
  | oracle (query : Oracle.Query)
  | receipt (query : Receipt.Query)
  | market (query : Market.Query)
  /-- The registry that a contract asks for approval. -/
  | registryAddress

namespace Query

def words : Query → List Word
  | registry (.approval _ _ start) => [u32 "last_index" start]
  | registry (.application _ index) | receipt (.minter index) => [u32 "index" index]
  | oracle (.idPrice id) | oracle (.idFeed id) => [u64 "underlying" id]
  | market (.onPool id _) => [u32 "pool_id" id]
  | _ => []

def isKnownTo : Query → Kind → Bool
  | registry _, .registry | feed _, .feed | oracle _, .oracle | receipt _, .receipt | market _, .market => true
  | registryAddress, .oracle | registryAddress, .receipt | registryAddress, .market => true
  | _, _ => false

end Query

/-! ### Replies -/

inductive Reply where
  | nothing
  | number (n : Nat)
  | numbers (ns : List Nat)
  | flag (b : Bool)
  | address (a : Address)
  | addresses (as : List Address)
  | token (t : Token)
  | digest (d : Digest)
  | phase (p : Phase)
  | feedConfig (config : FeedConfig)
  | settings (fees : Fees) (feeAddress : Address) (minDeposit : Nat) (paused : Bool)
  | application (a : Application)
  | loan (l : Loan)
  | amounts (a : Amounts)
  | lendPosition (p : LendPosition)
  | borrowPosition (p : BorrowPosition)
  | healthReport (r : HealthReport)
  deriving DecidableEq, Repr

end TermLending
