import TermLending.Proofs.Pool.Obligations

/-!
# What rounding leaves in a pool

Every share is rounded down, so shares add up to less than what is shared. The difference is bounded by how many users
there are, whatever the amounts.
-/

namespace TermLending.Pool

open Finset

variable {p : Pool} {s : Scene} {t : Transition} {action : Action}

/-! ### Members -/

theorem Ledger.stake_outside (ledger : p.Ledger) (u : Address) (other : u ∉ p.lenders) : (p.lendPosition u).stake = 0 := by
  rw [ledger.lend.mem_iff, unitsOf_lending] at other
  omega

theorem Ledger.pledge_outside (ledger : p.Ledger) (u : Address) (other : u ∉ p.borrowers) :
    (p.borrowPosition u).pledge = 0 := by
  rw [ledger.borrow.mem_iff, unitsOf_borrowing] at other
  omega

section

variable {members : Roster Address} {f : Address → Nat}

/-- Where others have nothing, the members have all. -/
theorem sum_members (nodup : members.items.Nodup) (outside : ∀ u, u ∉ members → f u = 0) :
    ∑ u, f u = (members.items.map f).sum := by
  rw [← List.sum_toFinset f nodup]
  refine (sum_subset (subset_univ _) fun u _ other => outside u ?_).symm
  rwa [List.mem_toFinset] at other

theorem size_eq_card (nodup : members.items.Nodup) : members.size = members.items.toFinset.card :=
  (List.toFinset_card_of_nodup nodup).symm

theorem le_sum_share_of_members (nodup : members.items.Nodup) (outside : ∀ u, u ∉ members → f u = 0) {whole m : Nat}
    (sum : whole = ∑ u, f u) (shared : 0 < m → 0 < whole) : m ≤ ∑ u, f u * m / whole + (members.size - 1) := by
  have share := le_sum_share (fun u other => outside u (mt List.mem_toFinset.2 other)) sum shared
  rwa [size_eq_card nodup]

end

/-! ### One rounding -/

/-- An amount shared among the lenders by their stakes. -/
theorem lend_share (ledger : p.Ledger) {m : Nat} (within : m ≤ p.lendSupply) :
    m ≤ ∑ u, (p.lendPosition u).stake * m / p.lendSupply + (p.lenders.size - 1) :=
  le_sum_share_of_members ledger.lend.nodup ledger.stake_outside ledger.lendSupply_eq fun some =>
    Nat.lt_of_lt_of_le some within

/-- An amount shared among the borrowers by their pledges. -/
theorem borrow_share (ledger : p.Ledger) {m : Nat} (shared : 0 < m → 0 < p.borrowSupply) :
    m ≤ ∑ u, (p.borrowPosition u).pledge * m / p.borrowSupply + (p.borrowers.size - 1) :=
  le_sum_share_of_members ledger.borrow.nodup ledger.pledge_outside ledger.borrowSupply_eq shared

/-- Refunds and loans leave little of what lenders brought. -/
theorem lendSupply_le (ledger : p.Ledger) (shape : p.Shape) :
    p.lendSupply ≤ ∑ u, p.unmatchedOf (p.lendPosition u).stake + ∑ u, p.drawnOf (p.borrowPosition u).pledge +
      ((p.lenders.size - 1) + (p.borrowers.size - 1)) := by
  have unmatched : _ ≤ ∑ u, p.unmatchedOf _ + _ := lend_share ledger (Nat.sub_le p.lendSupply p.matchedLend)
  have drawn : _ ≤ ∑ u, p.drawnOf _ + _ := borrow_share ledger shape.amounts.pledged
  have within := shape.amounts.matchedLend_le
  omega

theorem recoveryBorrow_le (ledger : p.Ledger) (shape : p.Shape) (liquidated : p.phase = .liquidated) :
    p.recoveryBorrow ≤ ∑ u, p.borrowRecoveryOf (p.borrowPosition u).pledge + (p.borrowers.size - 1) := by
  have parts := (shape.amounts.liquidated liquidated).2.2.2
  exact borrow_share ledger fun some => by omega

/-! ### Rounded twice -/

/-- The worth of the matched stakes falls short of the worth of the loan by that of one unit for each lender. -/
theorem worth_le (ledger : p.Ledger) (shape : p.Shape) (worth : Nat) :
    worth * p.matchedLend ≤ (∑ u, p.matchedOf (p.lendPosition u).stake) * worth + p.lenders.size * worth := by
  have matched : p.matchedLend ≤ ∑ u, p.matchedOf (p.lendPosition u).stake + (p.lenders.size - 1) :=
    lend_share ledger shape.amounts.matchedLend_le
  calc worth * p.matchedLend
      ≤ worth * (∑ u, p.matchedOf (p.lendPosition u).stake + p.lenders.size) := Nat.mul_le_mul_left _ (by omega)
    _ = _ := by rw [Nat.mul_add, Nat.mul_comm worth, Nat.mul_comm worth]

/-- The recovery of the lenders is shared by their matched stakes, which were rounded before. -/
theorem recoveryLend_le (ledger : p.Ledger) (shape : p.Shape) (lent : 0 < p.matchedLend) :
    p.recoveryLend * p.matchedLend ≤ (∑ u, p.lendRecoveryOf (p.lendPosition u).stake) * p.matchedLend +
      p.lenders.size * (p.recoveryLend + p.matchedLend) := by
  have outside (u : Address) (other : u ∉ p.lenders.items.toFinset) : p.matchedOf (p.lendPosition u).stake = 0 := by
    simp [matchedOf, ledger.stake_outside u (mt List.mem_toFinset.2 other)]
  have shared := sum_mul_le_of_support outside lent p.recoveryLend
  rw [← size_eq_card ledger.lend.nodup] at shared
  have worth := worth_le ledger shape p.recoveryLend
  have fewer : p.lenders.size * (p.matchedLend - 1) ≤ p.lenders.size * p.matchedLend :=
    Nat.mul_le_mul_left _ (Nat.sub_le _ _)
  rw [Nat.mul_add]
  unfold lendRecoveryOf
  omega

/-! ### All claims made -/

def AllClaimed (p : Pool) : Prop :=
  (∀ u ∈ p.lenders, (p.lendPosition u).claimed = true) ∧ ∀ u ∈ p.borrowers, (p.borrowPosition u).claimed = true

instance : DecidablePred AllClaimed := fun p =>
  @instDecidableAnd _ _ (List.decidableBAll _ p.lenders.items) (List.decidableBAll _ p.borrowers.items)

/-- All users of a liquidated pool have had their parts. -/
def AllRecovered (p : Pool) : Prop :=
  (∀ u ∈ p.lenders, (p.lendPosition u).recovered = true) ∧ ∀ u ∈ p.borrowers, (p.borrowPosition u).recovered = true

instance : DecidablePred AllRecovered := fun p =>
  @instDecidableAnd _ _ (List.decidableBAll _ p.lenders.items) (List.decidableBAll _ p.borrowers.items)

/-- The receipts created for lenders, as their positions have it. -/
def lendCreated (p : Pool) : Nat := (p.lenders.items.map fun u => (p.lendPosition u).receipts).sum

def borrowCreated (p : Pool) : Nat := (p.borrowers.items.map fun u => (p.borrowPosition u).receipts).sum

theorem matched_le_created (ledger : p.Ledger) (shape : p.Shape) (intact : p.phase ≠ .liquidated)
    (claimed : p.AllClaimed) : ∑ u, p.matchedOf (p.lendPosition u).stake ≤ p.lendCreated := by
  rw [sum_members ledger.lend.nodup fun u other => by simp [matchedOf, ledger.stake_outside u other]]
  refine List.sum_le_sum fun u member => ?_
  rcases (shape.lend u).claimed (claimed.1 u member) with all | ⟨liquidated, _⟩
  · rw [all]
  · exact absurd liquidated intact

theorem pledged_le_created (ledger : p.Ledger) (shape : p.Shape) (intact : p.phase ≠ .liquidated)
    (claimed : p.AllClaimed) : p.borrowSupply ≤ p.borrowCreated := by
  rw [ledger.borrowSupply_eq, sum_members ledger.borrow.nodup ledger.pledge_outside]
  refine List.sum_le_sum fun u member => ?_
  rcases ((shape.borrow u).claimed (claimed.2 u member)).2 with all | ⟨liquidated, _⟩
  · rw [all]
  · exact absurd liquidated intact

/-! ### Stakes taken back -/

/-- The part of a stake that its lender takes back before settlement. -/
def cancels : Action → Payout → Nat
  | .cancelLend _, out | .refundLend (some _), out => out.settle
  | _, _ => 0

/-- The lend supply is what lenders bring, less what they take back. -/
theorem act_lendSupply (accepted : p.act s action = .ok t) :
    t.pool.lendSupply + cancels action t.payout = p.lendSupply + lendDeposit s action := by
  cases act_effect accepted with
  | depositLend deposit => simp [lendDeposit, deposit.attached, cancels, stake]
  | cancelLend cancel | refundPart cancel => exact Nat.sub_add_cancel cancel.covered
  | _ => rfl

end TermLending.Pool
