import TermLending.World.Action
import TermLending.World.Answer

/-!
# Calls and deployments

A call first moves its payments, then runs the contract. A call that fails leaves the world as it was, payments
included. A deployment puts a contract with its first storage at an address.
-/

namespace TermLending

inductive Request where
  | act (action : Action)
  | ask (query : Query)

structure Call where
  caller : Address
  target : Address
  request : Request
  payments : List Payment := []

namespace World

/-- What is paid along with an action is what the action takes. -/
def checkPayment (attached : List Payment) (action : Action) : Except Fault Unit :=
  match action.fare with
  | .nothing => refusePayment attached
  | .coin => do
      let _ ← issuePrice attached
      return ()
  | .anything => .ok ()

/-- The contract knows the action, takes the payment, the caller may ask for it, and its arguments fit. -/
def accept (w : World) (c : Context) (action : Action) : Except Fault Unit := do
  demand (w.kind c.self = some action.kind) .unknownFunction
  checkPayment c.attached action
  demand (action.isDeployerOnly → c.caller = w.deployer c.self) .notDeployer
  checkWords action.words

def call (w : World) (c : Call) : Except Fault Outcome := do
  let w ← w.transferAll c.caller c.target c.payments
  match c.request with
  | .act action =>
      let context : Context := { caller := c.caller, self := c.target, attached := c.payments }
      w.accept context action
      w.act context action
  | .ask query => return { world := w, reply := ← w.ask c.target query c.payments }

/-! ### Deployment -/

/-- A contract to be, with what its first storage is made of. -/
inductive Blueprint where
  | registry (threshold : Nat) (signers : List Address)
  | feed (decimals answer : Nat)
  | oracle (registry : Address)
  | receipt (registry : Address)
  | market (registry oracle feeAddress : Address)

def Blueprint.kind : Blueprint → Kind
  | registry .. => .registry
  | feed .. => .feed
  | oracle .. => .oracle
  | receipt .. => .receipt
  | market .. => .market

def Blueprint.words : Blueprint → List Word
  | registry threshold _ => [u32 "threshold" threshold]
  | feed decimals _ => [u8 "decimals" decimals]
  | _ => []

/-- Writes the first storage of a contract. -/
def build (w : World) (a : Address) : Blueprint → Except Fault World
  | .registry threshold signers => return w.setRegistry a (← Registry.establish threshold signers)
  | .feed decimals answer => return w.setFeed a { decimals, answer }
  | .oracle registry => return w.setOracle a (← Oracle.establish registry)
  | .receipt registry => return w.setReceipt a (← Receipt.establish registry)
  | .market registry oracle feeAddress => return w.setMarket a (← Market.establish registry oracle feeAddress)

def deploy (w : World) (deployer a : Address) (blueprint : Blueprint) : Except Fault World := do
  checkWords blueprint.words
  let w ← w.build a blueprint
  return { w with kind := put w.kind a (some blueprint.kind), deployer := put w.deployer a deployer }

/-! ### Preparing a world -/

/-- Opens an account with some holdings. An account that was there before gives way to it. -/
def openAccount (w : World) (a : Address) (holdings : List (Token × Nat)) : World :=
  let w := { w with
    balance := put w.balance a fun _ => 0
    hasHeld := put w.hasHeld a fun _ => false }
  holdings.foldl (fun w (token, amount) => w.setBalance a token amount) w

/-- Gives a receipt contract its token, as if it had issued it, with or without the right to create units. -/
def assignToken (w : World) (a : Address) (token : Token) (mayIssue : Bool) : World :=
  let w := w.setReceipt a { w.receipt a with token := some token }
  if mayIssue then { w with mayIssue := put w.mayIssue a (put (w.mayIssue a) token true) } else w

end World

end TermLending
