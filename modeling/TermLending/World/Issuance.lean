import TermLending.World.Inquiry

/-!
# Creating and destroying receipts

A receipt contract creates units for their owner, and destroys units that its minter sends along. A market does both
on behalf of its users, and pays them out of its own balance.
-/

namespace TermLending.World

/-- New units pass through the account of the contract on their way to the owner. -/
def mint (w : World) (self minter owner : Address) (amount : Nat) : Except Fault (World × List LogEntry) := do
  let (r, token) ← (w.receipt self).mint minter owner amount
  demand (w.mayIssue self token) .roleMissing
  let w := (w.setReceipt self r).markHeld self token
  return (w.credit owner token amount, [⟨self, .receiptsMinted minter owner amount⟩])

/-- The destroyed units have already reached the contract. -/
def burn (w : World) (self minter owner : Address) (amount : Nat) (attached : List Payment) :
    Except Fault (World × List LogEntry) := do
  let token ← (w.receipt self).redeem minter amount (soleToken attached)
  demand (w.mayIssue self token) .roleMissing
  let w ← w.debit self token amount
  let r ← (w.receipt self).uncount amount
  return (w.setReceipt self r, [⟨self, .receiptsBurned minter owner amount⟩])

/--
Issues the token of a receipt contract. The attached price of the issue leaves the contract again. Whatever the contract
had of another token by that name is gone.
-/
def issue (w : World) (self : Address) (ticker : List UInt8) (price : Nat) : Except Fault World := do
  let r := w.receipt self
  demand (r.token = none) .tokenAlreadySet
  let token := Receipt.tokenName self ticker
  let w ← w.debit self .native price
  let w := (w.setReceipt self { r with token := some token }).clear self token
  return { w with mayIssue := put w.mayIssue self (put (w.mayIssue self) token true) }

/-! ### On behalf of users -/

/-- Has receipts created. An account without a contract is asked in vain. -/
def issueReceipts (w : World) (self receipt owner : Address) (amount : Nat) :
    Except Fault (World × List LogEntry) :=
  if amount = 0 then .ok (w, [])
  else match w.kind receipt with
    | none => .ok (w, [])
    | some .receipt => w.mint receipt self owner amount
    | some _ => .error .unknownFunction

/-- Sends receipts back to their contract to be destroyed. -/
def returnReceipts (w : World) (self receipt owner : Address) (amount : Nat) :
    Except Fault (World × List LogEntry) :=
  if amount = 0 then .ok (w, [])
  else do
    let token ← w.receiptToken receipt
    let w ← w.transfer self receipt token amount
    w.burn receipt self owner amount [⟨token, amount⟩]

/-- Carries out a payout of the market at `self`. -/
def deliver (w : World) (self : Address) (terms : Terms) (out : Payout) : Except Fault (World × List LogEntry) := do
  let (w, lendBurned) ← w.returnReceipts self terms.lendReceipt out.recipient out.burnLend
  let (w, borrowBurned) ← w.returnReceipts self terms.borrowReceipt out.recipient out.burnBorrow
  let w ← w.send self out.recipient terms.settleToken out.settle
  let (w, lendMinted) ← w.issueReceipts self terms.lendReceipt out.recipient out.mintLend
  let (w, borrowMinted) ← w.issueReceipts self terms.borrowReceipt out.recipient out.mintBorrow
  let w ← w.send self out.recipient terms.pledgeToken out.pledge
  return (w, lendBurned ++ borrowBurned ++ lendMinted ++ borrowMinted)

end TermLending.World
