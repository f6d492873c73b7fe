import TermLending.Arith.Checked
import TermLending.Data.Pointwise
import TermLending.Data.Roster
import TermLending.Event
import TermLending.Text.Hex

/-!
# Receipt tokens

A receipt contract issues one token. Its minters alone create and destroy units of it; holders pass them on freely.
The contract keeps count of the units that it created and did not destroy.
-/

namespace TermLending

structure Receipt where
  registry : Address := .zero
  token : Option Token := none
  supply : Nat := 0
  minters : Roster Address := {}

namespace Receipt

def establish (registry : Address) : Except Fault Receipt := do
  demand (registry ≠ .zero) .zeroRegistry
  return { registry }

/-- The events say whether the minter is new. -/
def addMinter (r : Receipt) (minter : Address) : Except Fault (Receipt × List Event) := do
  demand (minter ≠ .zero) .zeroAddress
  if minter ∈ r.minters then return (r, [])
  else return ({ r with minters := r.minters.insert minter }, [.minterAdded minter])

/-- The events say whether there was such a minter. -/
def removeMinter (r : Receipt) (minter : Address) : Receipt × List Event :=
  if minter ∈ r.minters then ({ r with minters := r.minters.erase minter }, [.minterRemoved minter])
  else (r, [])

def issued (r : Receipt) : Except Fault Token :=
  match r.token with
  | some token => .ok token
  | none => .error .tokenNotIssued

/-- Checks a request to create units and counts them. -/
def mint (r : Receipt) (minter owner : Address) (amount : Nat) : Except Fault (Receipt × Token) := do
  demand (minter ∈ r.minters) .notMinter
  demand (owner ≠ .zero) .zeroAddress
  demand (0 < amount) .zeroAmount
  let token ← r.issued
  return ({ r with supply := r.supply + amount }, token)

/-- Checks a request to destroy units that came along with the call: exactly `amount` of this token. -/
def redeem (r : Receipt) (minter : Address) (amount : Nat) (payment : Except Fault Payment) :
    Except Fault Token := do
  demand (minter ∈ r.minters) .notMinter
  demand (0 < amount) .zeroAmount
  let token ← r.issued
  let payment ← payment
  demand (payment.token = token) .wrongPaymentToken
  demand (payment.amount = amount) .paymentMismatch
  return token

/-- Counts destroyed units. -/
def uncount (r : Receipt) (amount : Nat) : Except Fault Receipt := do
  let supply ← difference r.supply amount
  return { r with supply }

/-- The name of a newly issued token: its ticker, a dash, and three bytes of a digest of the issuer. -/
def tokenName (issuer : Address) (ticker : List UInt8) : Token :=
  let digest := Digest.keccak256 (issuer.bytes ++ List.replicate 48 0)
  ⟨ticker ++ Token.dash :: (Hex.ofBytes (digest.bytes.take 3)).map fun c => UInt8.ofNat c.toNat⟩

end Receipt

end TermLending
