import TermLending.Market
import TermLending.Oracle
import TermLending.Receipt
import TermLending.Registry

/-!
# The world

Accounts with balances, contracts with their storage, and a clock. Tokens are fungible, so an account has one balance for
each name. Each address runs at most one kind of contract, and keeps storage for it; what no contract wrote has its
default. A transfer moves an amount that the source has; to move nothing at all of a token, the source must at least have
held it once.
-/

namespace TermLending

/-- The contracts there are. -/
inductive Kind where
  | registry
  | feed
  | oracle
  | receipt
  | market
  deriving DecidableEq, Repr

structure World where
  now : Nat := 0
  kind : Address → Option Kind := fun _ => none
  deployer : Address → Address := fun _ => .zero
  /-- What an account holds of a token, all units of which are alike. -/
  balance : Address → Token → Nat := fun _ _ => 0
  /-- Which tokens an account has ever held. -/
  hasHeld : Address → Token → Bool := fun _ _ => false
  /-- Which contracts may create and destroy units of a token. -/
  mayIssue : Address → Token → Bool := fun _ _ => false
  registry : Address → Registry := fun _ => {}
  feed : Address → Feed := fun _ => {}
  oracle : Address → Oracle := fun _ => {}
  receipt : Address → Receipt := fun _ => {}
  market : Address → Market := fun _ => {}

namespace World

/-- Records that an account has held a token. -/
def markHeld (w : World) (account : Address) (token : Token) : World :=
  { w with hasHeld := put w.hasHeld account (put (w.hasHeld account) token true) }

def setBalance (w : World) (account : Address) (token : Token) (amount : Nat) : World :=
  { w.markHeld account token with balance := put w.balance account (put (w.balance account) token amount) }

/-- Starts the holding of a token afresh: the account has nothing of it and never had. -/
def clear (w : World) (account : Address) (token : Token) : World :=
  { w with
    balance := put w.balance account (put (w.balance account) token 0)
    hasHeld := put w.hasHeld account (put (w.hasHeld account) token false) }

def setRegistry (w : World) (a : Address) (r : Registry) : World := { w with registry := put w.registry a r }

def setFeed (w : World) (a : Address) (f : Feed) : World := { w with feed := put w.feed a f }

def setOracle (w : World) (a : Address) (o : Oracle) : World := { w with oracle := put w.oracle a o }

def setReceipt (w : World) (a : Address) (r : Receipt) : World := { w with receipt := put w.receipt a r }

def setMarket (w : World) (a : Address) (m : Market) : World := { w with market := put w.market a m }

/-! ### Moving tokens -/

def shortage (token : Token) : Fault := if token = .native then .coinShortage else .tokenShortage

def credit (w : World) (account : Address) (token : Token) (amount : Nat) : World :=
  w.setBalance account token (w.balance account token + amount)

/-- The account can give the amount away. Everybody can give nothing of the native coin. -/
def CanPay (w : World) (account : Address) (token : Token) (amount : Nat) : Prop :=
  amount ≤ w.balance account token ∧ (0 < amount ∨ token = .native ∨ w.hasHeld account token)

instance (w : World) (account : Address) (token : Token) (amount : Nat) : Decidable (w.CanPay account token amount) :=
  inferInstanceAs (Decidable (_ ∧ _))

def debit (w : World) (account : Address) (token : Token) (amount : Nat) : Except Fault World := do
  demand (w.CanPay account token amount) (shortage token)
  return w.setBalance account token (w.balance account token - amount)

def transfer (w : World) (source target : Address) (token : Token) (amount : Nat) : Except Fault World := do
  let w ← w.debit source token amount
  return w.credit target token amount

/-- Moves payments one after the other. -/
def transferAll (w : World) (source target : Address) : List Payment → Except Fault World
  | [] => .ok w
  | payment :: rest => do
      let w ← w.transfer source target payment.token payment.amount
      w.transferAll source target rest

/-- Like `transfer`, but an amount of zero moves nothing. -/
def send (w : World) (source target : Address) (token : Token) (amount : Nat) : Except Fault World :=
  if amount = 0 then .ok w else w.transfer source target token amount

end World

end TermLending
