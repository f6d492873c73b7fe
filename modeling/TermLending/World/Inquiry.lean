import TermLending.World.Basic

/-!
# Questions between contracts

What one contract reads from another. A question to an account without a contract ends without an answer; a contract
of another kind does not know the question.
-/

namespace TermLending.World

/-- A contract of the given kind is there to answer. -/
def contact (w : World) (a : Address) (kind : Kind) : Except Fault Unit :=
  match w.kind a with
  | none => .error .noResult
  | some other => demand (other = kind) .unknownFunction

/-- The signers in `registry` have approved what `caller` does to `target`. -/
def requireApproved (w : World) (registry caller target : Address) : Except Fault Unit := do
  w.contact registry .registry
  demand (0 < (w.registry registry).approval caller target 0) .notApproved

/-- Gated actions need approval, others do not. -/
def gate (w : World) (gated : Bool) (registry caller target : Address) : Except Fault Unit :=
  if gated then w.requireApproved registry caller target else .ok ()

def askFeed (w : World) (feed : Address) : Except Fault Feed := do
  w.contact feed .feed
  return w.feed feed

def tokenPrice (w : World) (oracle : Address) (token : Token) : Except Fault Nat := do
  w.contact oracle .oracle
  (w.oracle oracle).tokenPrice w.askFeed token

/-- The prices of both tokens of a pool, the settle token's first. -/
def prices (w : World) (oracle : Address) (terms : Terms) : Except Fault Prices := do
  let settle ← w.tokenPrice oracle terms.settleToken
  let pledge ← w.tokenPrice oracle terms.pledgeToken
  return { settle, pledge }

/-- The token of a receipt contract, the blank one while it has none. -/
def receiptToken (w : World) (receipt : Address) : Except Fault Token := do
  w.contact receipt .receipt
  return (w.receipt receipt).token.getD .blank

/-- What pool `id` of the market at `self` sees of a call. -/
def scene (w : World) (self caller : Address) (attached : List Payment) (id : Nat) (p : Pool) : Scene :=
  let m := w.market self
  { id, caller, attached
    now := w.now
    paused := m.paused
    minDeposit := m.minDeposit
    fees := m.fees
    feeAddress := m.feeAddress
    prices := w.prices m.oracle p.toTerms
    lendToken := w.receiptToken p.lendReceipt
    borrowToken := w.receiptToken p.borrowReceipt }

end TermLending.World
