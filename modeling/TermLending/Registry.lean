import TermLending.Fault
import TermLending.Data.Pointwise
import TermLending.Data.Roster
import TermLending.Event

/-!
# The approval registry

Signers approve what an account may do to a contract. The account opens an application; once as many signers as the
threshold asks have signed it, the account is approved on that contract, until signatures are revoked. Applications
of one account on one contract form a list, in the order in which they were opened.
-/

namespace TermLending

structure Application where
  applicant : Address
  signatures : Roster Address := {}
  deriving DecidableEq, Repr

structure Registry where
  signers : Roster Address := {}
  threshold : Nat := 0
  applications : Digest → List Application := fun _ => []

namespace Registry

/-- Enters signers one by one; each must be somebody, and nobody may come twice. -/
def enroll : Roster Address → List Address → Except Fault (Roster Address)
  | roster, [] => .ok roster
  | roster, signer :: rest => do
      demand (signer ≠ .zero) .zeroAddress
      demand (signer ∉ roster) .duplicateSigner
      enroll (roster.insert signer) rest

def establish (threshold : Nat) (signers : List Address) : Except Fault Registry := do
  demand (signers ≠ []) .noSigners
  let roster ← enroll {} signers
  demand (1 ≤ threshold ∧ threshold ≤ roster.size) .invalidThreshold
  return { signers := roster, threshold }

def count (r : Registry) (digest : Digest) : Nat := (r.applications digest).length

/-- Appends an application; its place in the list is the second component. -/
def submit (r : Registry) (applicant target : Address) : Except Fault (Registry × Nat) := do
  demand (target ≠ .zero) .zeroAddress
  let digest := Digest.ofPair applicant target
  let filed := r.applications digest
  return ({ r with applications := put r.applications digest (filed ++ [{ applicant }]) }, filed.length)

/-- The place of the application that is meant when no place is given. -/
def defaultIndex : Nat := 0

/-- The application a signer means. -/
def locate (r : Registry) (signer : Address) (digest : Digest) (index : Option Nat) :
    Except Fault (Nat × Application) := do
  demand (signer ∈ r.signers) .notSigner
  let index := index.getD defaultIndex
  match (r.applications digest)[index]? with
  | some application => .ok (index, application)
  | none => .error .applicationNotFound

def refile (r : Registry) (digest : Digest) (index : Nat) (application : Application) : Registry :=
  { r with applications := put r.applications digest ((r.applications digest).set index application) }

/-- Adds a signature; the place of the signed application is the second component. -/
def sign (r : Registry) (signer : Address) (digest : Digest) (index : Option Nat) :
    Except Fault (Registry × Nat) := do
  let (index, application) ← r.locate signer digest index
  demand (signer ∉ application.signatures) .alreadySigned
  return (r.refile digest index { application with signatures := application.signatures.insert signer }, index)

def revoke (r : Registry) (signer : Address) (digest : Digest) (index : Option Nat) :
    Except Fault (Registry × Nat) := do
  let (index, application) ← r.locate signer digest index
  demand (signer ∈ application.signatures) .notSigned
  return (r.refile digest index { application with signatures := application.signatures.erase signer }, index)

/-- Enough signers have signed. -/
def isApproved (r : Registry) (application : Application) : Bool :=
  r.threshold ≤ application.signatures.size

/-- The first approved application on or after a place. -/
def firstApproved (r : Registry) (digest : Digest) (start : Nat) : Option Nat :=
  (((r.applications digest).drop start).findIdx? r.isApproved).map (start + ·)

/-- One more than the place of the first approved application, zero when there is none. -/
def approval (r : Registry) (source target : Address) (start : Nat) : Nat :=
  match r.firstApproved (.ofPair source target) start with
  | some index => index + 1
  | none => 0

end Registry

end TermLending
