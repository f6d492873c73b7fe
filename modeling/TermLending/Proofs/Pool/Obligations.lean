import Mathlib.Algebra.Order.Field.Rat
import Mathlib.Data.Nat.Cast.Order.Field
import Mathlib.Tactic.FieldSimp
import Mathlib.Tactic.GCongr
import Mathlib.Tactic.Linarith
import Mathlib.Tactic.Positivity
import Mathlib.Tactic.Ring
import TermLending.Proofs.Pool.Backing

/-!
# What a pool owes

Until settlement a pool owes its lenders their stakes. Settlement divides the stakes among lenders who found no
borrower and borrowers who draw the loan, and the end of the pool divides the pledge among receipts, those that exist
and those that are still to be claimed. No action lets the pool release more than its debts fall by.
-/

namespace TermLending.Pool

open Finset

variable {p p' : Pool} {s : Scene} {t : Transition} {user : Address} {n : Nat}

/-! ### Debts to one user -/

def undrawnOf (p : Pool) (q : BorrowPosition) : Nat := if q.claimed then 0 else p.drawnOf q.pledge

def unclaimedOf (p : Pool) (q : LendPosition) : Nat := if q.claimed then 0 else p.matchedOf q.stake

def unclaimedPledgeOf (q : BorrowPosition) : Nat := if q.claimed then 0 else q.pledge

def unrecoveredOf (p : Pool) (q : LendPosition) : Nat := if q.recovered then 0 else p.lendRecoveryOf q.stake

def unrecoveredPledgeOf (p : Pool) (q : BorrowPosition) : Nat := if q.recovered then 0 else p.borrowRecoveryOf q.pledge

/-! ### Debts to all users -/

noncomputable def settleOwed (p : Pool) : Nat :=
  if p.phase = .matching then p.lendSupply
  else ∑ u, p.refundOf (p.lendPosition u) + ∑ u, p.undrawnOf (p.borrowPosition u)

/-- The pledge tokens that a pool owes while there are `lend` and `borrow` receipts of its two sides. -/
noncomputable def pledgeOwed (p : Pool) (lend borrow : Nat) : ℚ :=
  match p.phase with
  | .matching | .running => p.borrowSupply
  | .finished =>
      ((lend + ∑ u, p.unclaimedOf (p.lendPosition u) : Nat) : ℚ) * p.finishLend / p.matchedLend +
        ((borrow + ∑ u, unclaimedPledgeOf (p.borrowPosition u) : Nat) : ℚ) * p.finishBorrow / p.borrowSupply
  | .liquidated =>
      ((∑ u, p.unrecoveredOf (p.lendPosition u) + ∑ u, p.unrecoveredPledgeOf (p.borrowPosition u) : Nat) : ℚ)

theorem pledgeOwed_nonneg (p : Pool) (lend borrow : Nat) : 0 ≤ p.pledgeOwed lend borrow := by
  unfold pledgeOwed
  split <;> positivity

theorem settleOwed_of_matching (matching : p.phase = .matching) : p.settleOwed = p.lendSupply := if_pos matching

theorem settleOwed_of_settled (settled : p.phase.isSettled = true) :
    p.settleOwed = ∑ u, p.refundOf (p.lendPosition u) + ∑ u, p.undrawnOf (p.borrowPosition u) :=
  if_neg (ne_matching_of_settled settled)

/-! ### Parts never exceed the whole -/

theorem sum_matchedOf_le (ledger : p.Ledger) : ∑ u, p.matchedOf (p.lendPosition u).stake ≤ p.matchedLend :=
  sum_share_le ledger.lendSupply_eq _

theorem sum_drawnOf_le (ledger : p.Ledger) : ∑ u, p.drawnOf (p.borrowPosition u).pledge ≤ p.matchedLend :=
  sum_share_le ledger.borrowSupply_eq _

theorem sum_unmatchedOf_le (ledger : p.Ledger) :
    ∑ u, p.unmatchedOf (p.lendPosition u).stake ≤ p.lendSupply - p.matchedLend :=
  sum_share_le ledger.lendSupply_eq _

theorem sum_lendRecoveryOf_le (ledger : p.Ledger) :
    ∑ u, p.lendRecoveryOf (p.lendPosition u).stake ≤ p.recoveryLend :=
  calc ∑ u, p.lendRecoveryOf (p.lendPosition u).stake
      ≤ (∑ u, p.matchedOf (p.lendPosition u).stake) * p.recoveryLend / p.matchedLend := sum_mul_div_le _ _ _
    _ ≤ p.recoveryLend := Nat.div_le_of_le_mul (Nat.mul_le_mul_right _ (sum_matchedOf_le ledger))

theorem sum_borrowRecoveryOf_le (ledger : p.Ledger) :
    ∑ u, p.borrowRecoveryOf (p.borrowPosition u).pledge ≤ p.recoveryBorrow :=
  sum_share_le ledger.borrowSupply_eq _

/-- The receipts that exist and those still to be claimed are no more than what was lent out. -/
theorem lendReceipts_le (ledger : p.Ledger) (shape : ∀ u, p.LendShape (p.lendPosition u)) {lend : Nat}
    (backed : lend ≤ ∑ u, (p.lendPosition u).receipts) :
    lend + ∑ u, p.unclaimedOf (p.lendPosition u) ≤ p.matchedLend := by
  have each (u : Address) :
      (p.lendPosition u).receipts + p.unclaimedOf (p.lendPosition u) ≤ p.matchedOf (p.lendPosition u).stake := by
    unfold unclaimedOf
    split
    · next claimed =>
      rcases (shape u).claimed claimed with receipts | ⟨_, receipts⟩ <;> omega
    · next unclaimed =>
      have none := (shape u).unclaimed (by simpa using unclaimed)
      omega
  have sum := sum_le_sum fun u (_ : u ∈ univ) => each u
  rw [sum_add_distrib] at sum
  have whole := sum_matchedOf_le ledger
  omega

theorem borrowReceipts_le (ledger : p.Ledger) (shape : ∀ u, p.BorrowShape (p.borrowPosition u)) {borrow : Nat}
    (backed : borrow ≤ ∑ u, (p.borrowPosition u).receipts) :
    borrow + ∑ u, unclaimedPledgeOf (p.borrowPosition u) ≤ p.borrowSupply := by
  have each (u : Address) :
      (p.borrowPosition u).receipts + unclaimedPledgeOf (p.borrowPosition u) ≤ (p.borrowPosition u).pledge := by
    unfold unclaimedPledgeOf
    split
    · next claimed =>
      rcases ((shape u).claimed claimed).2 with receipts | ⟨_, receipts⟩ <;> omega
    · next unclaimed =>
      have none := (shape u).unclaimed (by simpa using unclaimed)
      omega
  have sum := sum_le_sum fun u (_ : u ∈ univ) => each u
  rw [sum_add_distrib, ← ledger.borrowSupply_eq] at sum
  omega

/-- Unless a pool is liquidated, every unit of the pledge has had its receipt or is still to have it. -/
theorem borrowReceipts_eq (ledger : p.Ledger) (shape : ∀ u, p.BorrowShape (p.borrowPosition u))
    (intact : p.phase ≠ .liquidated) :
    ∑ u, (p.borrowPosition u).receipts + ∑ u, unclaimedPledgeOf (p.borrowPosition u) = p.borrowSupply := by
  rw [← sum_add_distrib, ledger.borrowSupply_eq]
  refine sum_congr rfl fun u _ => ?_
  unfold unclaimedPledgeOf
  split
  · next claimed =>
    rcases ((shape u).claimed claimed).2 with receipts | ⟨liquidated, _⟩
    · rw [receipts, Nat.add_zero]
    · exact absurd liquidated intact
  · next unclaimed =>
    have none := (shape u).unclaimed (by simpa using unclaimed)
    rw [none.2, Nat.zero_add]

/-- A part of a whole is worth no more than the whole is. -/
theorem share_le {part whole worth : Nat} (within : part ≤ whole) : (part : ℚ) * worth / whole ≤ worth := by
  rcases Nat.eq_zero_or_pos whole with rfl | positive
  · simp
  · rw [div_le_iff₀ (by exact_mod_cast positive), mul_comm]
    gcongr

/-! ### What actions release of the settle token -/

def lendDeposit (s : Scene) : Action → Nat
  | .depositLend => (s.attached.map Payment.amount).sum
  | _ => 0

def borrowDeposit (s : Scene) : Action → Nat
  | .depositBorrow => (s.attached.map Payment.amount).sum
  | _ => 0

/-- What is released is no longer owed once the position says so. -/
theorem settleOwed_setLending {q : LendPosition} (settled : p.phase.isSettled = true)
    (covered : n + p.refundOf q ≤ p.refundOf (p.lendPosition user)) :
    (p.setLending user q).settleOwed + n ≤ p.settleOwed := by
  have sum := sum_setLending p user q p.refundOf
  rw [settleOwed_of_settled settled, settleOwed_of_settled (p := p.setLending user q) settled]
  change ∑ u, p.refundOf ((p.setLending user q).lendPosition u) + ∑ u, p.undrawnOf (p.borrowPosition u) + n ≤ _
  omega

theorem settleOwed_setBorrowing {q : BorrowPosition} (settled : p.phase.isSettled = true)
    (covered : n + p.undrawnOf q ≤ p.undrawnOf (p.borrowPosition user)) :
    (p.setBorrowing user q).settleOwed + n ≤ p.settleOwed := by
  have sum := sum_setBorrowing p user q p.undrawnOf
  rw [settleOwed_of_settled settled, settleOwed_of_settled (p := p.setBorrowing user q) settled]
  change ∑ u, p.refundOf (p.lendPosition u) + ∑ u, p.undrawnOf ((p.setBorrowing user q).borrowPosition u) + n ≤ _
  omega

/-- The end of a pool leaves the settle tokens to those who have not had them yet. -/
theorem settleOwed_setAmounts {amounts : Amounts} {phase : Phase} (running : p.phase = .running)
    (matched : amounts.matchedLend = p.matchedLend) (settled : phase.isSettled = true) :
    (p.setAmounts amounts phase).settleOwed = p.settleOwed := by
  have refunds (q : LendPosition) : (p.setAmounts amounts phase).refundOf q = p.refundOf q := by
    simp only [refundOf, unmatchedOf, setAmounts, matched]
  have loans (q : BorrowPosition) : (p.setAmounts amounts phase).undrawnOf q = p.undrawnOf q := by
    simp only [undrawnOf, drawnOf, setAmounts, matched]
  have before : p.phase.isSettled = true := by rw [running]; rfl
  rw [settleOwed_of_settled (p := p) before, settleOwed_of_settled (p := p.setAmounts amounts phase) settled]
  simp only [refunds, loans]
  rfl

/-- At settlement the stakes cover all refunds and loans. -/
theorem settleOwed_le (ledger : p.Ledger) (shape : p.Shape) : p.settleOwed ≤ p.lendSupply := by
  unfold settleOwed
  split
  · exact Nat.le_refl _
  · have refunds : ∑ u, p.refundOf (p.lendPosition u) ≤ ∑ u, p.unmatchedOf (p.lendPosition u).stake := by
      refine sum_le_sum fun u _ => ?_
      unfold refundOf
      split
      · exact Nat.zero_le _
      · exact Nat.le_refl _
    have loans : ∑ u, p.undrawnOf (p.borrowPosition u) ≤ ∑ u, p.drawnOf (p.borrowPosition u).pledge := by
      refine sum_le_sum fun u _ => ?_
      unfold undrawnOf
      split
      · exact Nat.zero_le _
      · exact Nat.le_refl _
    have unmatched := sum_unmatchedOf_le ledger
    have drawn := sum_drawnOf_le ledger
    have within := shape.amounts.matchedLend_le
    omega

theorem act_settleOwed {action : Action} (ledger : p.Ledger) (shape : p.Shape) (accepted : p.act s action = .ok t) :
    t.pool.settleOwed + t.payout.settle ≤ p.settleOwed + lendDeposit s action := by
  have ledger' := act_ledger ledger accepted
  have shape' := act_shape shape accepted
  cases act_effect accepted with
  | @depositLend amount deposit =>
    have brought : lendDeposit s .depositLend = amount := by simp [lendDeposit, deposit.attached]
    rw [settleOwed_of_matching deposit.matching, brought]
    exact settleOwed_le ledger' shape'
  | depositBorrow deposit =>
    rw [settleOwed_of_matching deposit.matching]
    exact settleOwed_le ledger' shape'
  | @cancelLend amount cancel | @refundPart amount cancel =>
    have owed : _ ≤ p.lendSupply - amount := settleOwed_le ledger' shape'
    have covered := cancel.covered
    rw [settleOwed_of_matching cancel.matching]
    dsimp only at owed ⊢
    omega
  | refundRest settled _ _ unrefunded =>
    refine Nat.le_add_right_of_le (settleOwed_setLending settled ?_)
    simp [refundOf, unrefunded]
  | claimLend settled => exact Nat.le_add_right_of_le (settleOwed_setLending settled (Nat.le_refl _))
  | claimBorrow settled _ unclaimed =>
    refine Nat.le_add_right_of_le (settleOwed_setBorrowing settled ?_)
    simp [undrawnOf, unclaimed]
  | withdrawLend | withdrawBorrow => exact Nat.le_add_right _ _
  | settle matching =>
    rw [settleOwed_of_matching matching]
    exact settleOwed_le ledger' shape'
  | finish running =>
    change (p.setAmounts _ .finished).settleOwed ≤ _
    refine (settleOwed_setAmounts running ?_ ?_).le.trans (Nat.le_add_right _ _) <;> rfl
  | liquidate running =>
    change (p.setAmounts _ .liquidated).settleOwed ≤ _
    refine (settleOwed_setAmounts running ?_ ?_).le.trans (Nat.le_add_right _ _) <;> rfl
  | recoverLend liquidated =>
    have settled : p.phase.isSettled = true := by rw [liquidated]; rfl
    exact Nat.le_add_right_of_le (settleOwed_setLending settled (Nat.zero_add _).le)
  | recoverBorrow liquidated =>
    have settled : p.phase.isSettled = true := by rw [liquidated]; rfl
    exact Nat.le_add_right_of_le (settleOwed_setBorrowing settled (Nat.zero_add _).le)

/-! ### What actions release of the pledge token -/

/-- In a phase that lasts, a pool owes what its receipts and its unfinished claims and recoveries make. -/
theorem pledgeOwed_le {lend lend' borrow borrow' : Nat} (phase : p'.phase = p.phase)
    (supply : p'.borrowSupply = p.borrowSupply) (amounts : p'.toAmounts = p.toAmounts)
    (lends : lend' + ∑ u, p'.unclaimedOf (p'.lendPosition u) ≤ lend + ∑ u, p.unclaimedOf (p.lendPosition u))
    (borrows : borrow' + ∑ u, unclaimedPledgeOf (p'.borrowPosition u) ≤
      borrow + ∑ u, unclaimedPledgeOf (p.borrowPosition u))
    (recoveries : ∑ u, p'.unrecoveredOf (p'.lendPosition u) + ∑ u, p'.unrecoveredPledgeOf (p'.borrowPosition u) ≤
      ∑ u, p.unrecoveredOf (p.lendPosition u) + ∑ u, p.unrecoveredPledgeOf (p.borrowPosition u)) :
    p'.pledgeOwed lend' borrow' ≤ p.pledgeOwed lend borrow := by
  have matchedLend : p'.matchedLend = p.matchedLend := congrArg Amounts.matchedLend amounts
  have finishLend : p'.finishLend = p.finishLend := congrArg Amounts.finishLend amounts
  have finishBorrow : p'.finishBorrow = p.finishBorrow := congrArg Amounts.finishBorrow amounts
  unfold pledgeOwed
  rw [phase, supply, matchedLend, finishLend, finishBorrow]
  cases p.phase with
  | matching => exact le_rfl
  | running => exact le_rfl
  | finished =>
    dsimp only
    gcongr
  | liquidated => exact Nat.cast_le.2 recoveries

theorem pledgeOwed_of_open {lend borrow : Nat} (isOpen : p.phase.isTerminal = false) :
    p.pledgeOwed lend borrow = p.borrowSupply := by
  unfold pledgeOwed
  cases phase : p.phase with
  | matching => rfl
  | running => rfl
  | finished => simp [phase, Phase.isTerminal] at isOpen
  | liquidated => simp [phase, Phase.isTerminal] at isOpen

theorem pledgeOwed_of_finished {lend borrow : Nat} (finished : p.phase = .finished) :
    p.pledgeOwed lend borrow =
      ((lend + ∑ u, p.unclaimedOf (p.lendPosition u) : Nat) : ℚ) * p.finishLend / p.matchedLend +
        ((borrow + ∑ u, unclaimedPledgeOf (p.borrowPosition u) : Nat) : ℚ) * p.finishBorrow / p.borrowSupply := by
  unfold pledgeOwed
  rw [finished]

theorem pledgeOwed_of_liquidated {lend borrow : Nat} (liquidated : p.phase = .liquidated) :
    p.pledgeOwed lend borrow = ((∑ u, p.unrecoveredOf (p.lendPosition u) +
      ∑ u, p.unrecoveredPledgeOf (p.borrowPosition u) : Nat) : ℚ) := by
  unfold pledgeOwed
  rw [liquidated]

/-- At maturity the parts of both sides cover all receipts. -/
theorem pledgeOwed_finish {lend borrow : Nat} (ledger : p.Ledger) (shape : p.Shape) (backed : p.Backed lend borrow)
    (finished : p.phase = .finished) : p.pledgeOwed lend borrow ≤ p.finishLend + p.finishBorrow := by
  rw [pledgeOwed_of_finished finished]
  exact add_le_add (share_le (lendReceipts_le ledger shape.lend backed.lend))
    (share_le (borrowReceipts_le ledger shape.borrow backed.borrow))

/-- A liquidation leaves enough for both sides to recover their parts. -/
theorem pledgeOwed_liquidate (lend borrow : Nat) (ledger : p.Ledger) (liquidated : p.phase = .liquidated) :
    p.pledgeOwed lend borrow ≤ p.recoveryLend + p.recoveryBorrow := by
  have lends : ∑ u, p.unrecoveredOf (p.lendPosition u) ≤ ∑ u, p.lendRecoveryOf (p.lendPosition u).stake := by
    refine sum_le_sum fun u _ => ?_
    unfold unrecoveredOf
    split
    · exact Nat.zero_le _
    · exact Nat.le_refl _
  have borrows : ∑ u, p.unrecoveredPledgeOf (p.borrowPosition u) ≤
      ∑ u, p.borrowRecoveryOf (p.borrowPosition u).pledge := by
    refine sum_le_sum fun u _ => ?_
    unfold unrecoveredPledgeOf
    split
    · exact Nat.zero_le _
    · exact Nat.le_refl _
  have parts := add_le_add (lends.trans (sum_lendRecoveryOf_le ledger)) (borrows.trans (sum_borrowRecoveryOf_le ledger))
  rw [pledgeOwed_of_liquidated liquidated]
  exact_mod_cast parts

theorem pledgeOwed_setLending {q : LendPosition} {lend lend' borrow borrow' : Nat}
    (claims : lend' + p.unclaimedOf q ≤ lend + p.unclaimedOf (p.lendPosition user)) (others : borrow' ≤ borrow)
    (recoveries : p.unrecoveredOf q ≤ p.unrecoveredOf (p.lendPosition user)) :
    (p.setLending user q).pledgeOwed lend' borrow' ≤ p.pledgeOwed lend borrow := by
  have claimed := sum_setLending p user q p.unclaimedOf
  have recovered := sum_setLending p user q p.unrecoveredOf
  refine pledgeOwed_le rfl rfl rfl ?_ (Nat.add_le_add_right others _) (Nat.add_le_add_right ?_ _)
  · change lend' + ∑ u, p.unclaimedOf ((p.setLending user q).lendPosition u) ≤ _
    omega
  · change ∑ u, p.unrecoveredOf ((p.setLending user q).lendPosition u) ≤ _
    omega

theorem pledgeOwed_setBorrowing {q : BorrowPosition} {lend lend' borrow borrow' : Nat} (others : lend' ≤ lend)
    (claims : borrow' + unclaimedPledgeOf q ≤ borrow + unclaimedPledgeOf (p.borrowPosition user))
    (recoveries : p.unrecoveredPledgeOf q ≤ p.unrecoveredPledgeOf (p.borrowPosition user)) :
    (p.setBorrowing user q).pledgeOwed lend' borrow' ≤ p.pledgeOwed lend borrow := by
  have claimed := sum_setBorrowing p user q unclaimedPledgeOf
  have recovered := sum_setBorrowing p user q p.unrecoveredPledgeOf
  refine pledgeOwed_le rfl rfl rfl (Nat.add_le_add_right others _) ?_ (Nat.add_le_add_left ?_ _)
  · omega
  · change ∑ u, p.unrecoveredPledgeOf ((p.setBorrowing user q).borrowPosition u) ≤ _
    omega

theorem pledgeOwed_recoverLend {q : LendPosition} {lend lend' borrow borrow' : Nat} (liquidated : p.phase = .liquidated)
    (covered : n + p.unrecoveredOf q ≤ p.unrecoveredOf (p.lendPosition user)) :
    (p.setLending user q).pledgeOwed lend' borrow' + n ≤ p.pledgeOwed lend borrow := by
  have sum := sum_setLending p user q p.unrecoveredOf
  rw [pledgeOwed_of_liquidated liquidated, pledgeOwed_of_liquidated (p := p.setLending user q) liquidated,
    ← Nat.cast_add]
  refine Nat.cast_le.2 ?_
  change ∑ u, p.unrecoveredOf ((p.setLending user q).lendPosition u) +
    ∑ u, p.unrecoveredPledgeOf (p.borrowPosition u) + n ≤ _
  omega

theorem pledgeOwed_recoverBorrow {q : BorrowPosition} {lend lend' borrow borrow' : Nat}
    (liquidated : p.phase = .liquidated)
    (covered : n + p.unrecoveredPledgeOf q ≤ p.unrecoveredPledgeOf (p.borrowPosition user)) :
    (p.setBorrowing user q).pledgeOwed lend' borrow' + n ≤ p.pledgeOwed lend borrow := by
  have sum := sum_setBorrowing p user q p.unrecoveredPledgeOf
  rw [pledgeOwed_of_liquidated liquidated, pledgeOwed_of_liquidated (p := p.setBorrowing user q) liquidated,
    ← Nat.cast_add]
  refine Nat.cast_le.2 ?_
  change ∑ u, p.unrecoveredOf (p.lendPosition u) +
    ∑ u, p.unrecoveredPledgeOf ((p.setBorrowing user q).borrowPosition u) + n ≤ _
  omega

theorem pledgeOwed_unstake (user : Address) (n lend lend' borrow borrow' : Nat) (matching : p.phase = .matching) :
    (p.unstake user n).pledgeOwed lend' borrow' = p.pledgeOwed lend borrow := by
  obtain ⟨_, phase, supply, _⟩ := unstake_frame p user n
  have isOpen : p.phase.isTerminal = false := by rw [matching]; rfl
  rw [pledgeOwed_of_open isOpen, pledgeOwed_of_open (phase ▸ isOpen), supply]

theorem redeemed_le {n lend lend' : Nat} (claims worth whole : Nat) (burned : lend' + n ≤ lend) :
    ((lend' + claims : Nat) : ℚ) * worth / whole + (n * worth / whole : Nat) ≤
      ((lend + claims : Nat) : ℚ) * worth / whole := by
  have floor : ((n * worth / whole : Nat) : ℚ) ≤ (n : ℚ) * worth / whole := by
    exact_mod_cast (Nat.cast_div_le : ((n * worth / whole : Nat) : ℚ) ≤ _)
  have whole' : ((lend' + claims : Nat) : ℚ) + n ≤ ((lend + claims : Nat) : ℚ) := by
    exact_mod_cast (by omega : lend' + claims + n ≤ lend + claims)
  calc ((lend' + claims : Nat) : ℚ) * worth / whole + (n * worth / whole : Nat)
      ≤ ((lend' + claims : Nat) : ℚ) * worth / whole + (n : ℚ) * worth / whole := by gcongr
    _ = (((lend' + claims : Nat) : ℚ) + n) * worth / whole := by ring
    _ ≤ ((lend + claims : Nat) : ℚ) * worth / whole := by gcongr

theorem act_pledgeOwed {action : Action} {lend lend' borrow borrow' : Nat} (ledger : p.Ledger) (shape : p.Shape)
    (backed : p.Backed lend borrow) (accepted : p.act s action = .ok t)
    (lends : lend' + t.payout.burnLend ≤ lend + t.payout.mintLend)
    (borrows : borrow' + t.payout.burnBorrow ≤ borrow + t.payout.mintBorrow) :
    t.pool.pledgeOwed lend' borrow' + t.payout.pledge ≤ p.pledgeOwed lend borrow + borrowDeposit s action := by
  have ledger' := act_ledger ledger accepted
  have shape' := act_shape shape accepted
  have backed' := act_backed shape backed accepted lends borrows
  cases act_effect accepted with
  | @depositLend amount deposit =>
    have isOpen : p.phase.isTerminal = false := by rw [deposit.matching]; rfl
    rw [pledgeOwed_of_open isOpen, pledgeOwed_of_open (p := p.stake s.caller amount) isOpen]
    exact le_of_eq rfl
  | @depositBorrow amount deposit =>
    have isOpen : p.phase.isTerminal = false := by rw [deposit.matching]; rfl
    have brought : borrowDeposit s .depositBorrow = amount := by simp [borrowDeposit, deposit.attached]
    rw [pledgeOwed_of_open isOpen, pledgeOwed_of_open (p := p.pledge s.caller amount) isOpen, brought]
    change ((p.borrowSupply + amount : Nat) : ℚ) + ((0 : Nat) : ℚ) ≤ _
    simp
  | @cancelLend amount cancel | @refundPart amount cancel =>
    have bare := pledgeOwed_unstake s.caller amount lend lend' borrow borrow' cancel.matching
    exact add_le_add bare.le le_rfl
  | refundRest => exact add_le_add (pledgeOwed_setLending (Nat.add_le_add_right lends _) borrows le_rfl) le_rfl
  | claimLend _ _ unclaimed =>
    have minted : p.receiptsOf (p.lendPosition s.caller).stake ≤ p.unclaimedOf (p.lendPosition s.caller) := by
      unfold receiptsOf unclaimedOf
      rw [unclaimed]
      split
      · exact Nat.zero_le _
      · exact Nat.le_refl _
    refine add_le_add (pledgeOwed_setLending ?_ borrows le_rfl) le_rfl
    exact lends.trans (Nat.add_le_add_left minted _)
  | claimBorrow _ _ unclaimed =>
    have minted : p.pledgeReceiptsOf (p.borrowPosition s.caller).pledge ≤
        unclaimedPledgeOf (p.borrowPosition s.caller) := by
      unfold pledgeReceiptsOf unclaimedPledgeOf
      rw [unclaimed]
      split
      · exact Nat.zero_le _
      · exact Nat.le_refl _
    refine add_le_add (pledgeOwed_setBorrowing lends ?_ le_rfl) le_rfl
    exact borrows.trans (Nat.add_le_add_left minted _)
  | withdrawLend finished =>
    have redeemed := redeemed_le (∑ u, p.unclaimedOf (p.lendPosition u)) p.finishLend p.matchedLend lends
    rw [pledgeOwed_of_finished finished, pledgeOwed_of_finished finished, add_right_comm]
    refine (add_le_add redeemed ?_).trans (le_add_of_nonneg_right (Nat.cast_nonneg _))
    gcongr
    exact borrows
  | withdrawBorrow finished =>
    have redeemed := redeemed_le (∑ u, unclaimedPledgeOf (p.borrowPosition u)) p.finishBorrow p.borrowSupply borrows
    rw [pledgeOwed_of_finished finished, pledgeOwed_of_finished finished, add_assoc]
    refine (add_le_add ?_ redeemed).trans (le_add_of_nonneg_right (Nat.cast_nonneg _))
    gcongr
    exact lends
  | @settle amounts matching =>
    have isOpen : p.phase.isTerminal = false := by rw [matching]; rfl
    rw [pledgeOwed_of_open isOpen, pledgeOwed_of_open (p := p.setAmounts amounts .running) rfl]
    exact le_of_eq rfl
  | @finish parts running _ split =>
    have isOpen : p.phase.isTerminal = false := by rw [running]; rfl
    have owed := pledgeOwed_finish ledger' shape' backed' rfl
    have whole : ((parts.lend + parts.borrow + parts.fees : Nat) : ℚ) = p.borrowSupply :=
      congrArg Nat.cast (split_exact split).1
    rw [pledgeOwed_of_open isOpen, ← whole]
    refine (add_le_add owed (le_refl (parts.fees : ℚ))).trans ?_
    rw [← Nat.cast_add, ← Nat.cast_add, ← Nat.cast_add]
    exact Nat.cast_le.2 (Nat.le_add_right _ _)
  | liquidate running =>
    have isOpen : p.phase.isTerminal = false := by rw [running]; rfl
    have owed := pledgeOwed_liquidate lend' borrow' ledger' rfl
    have whole := reward_add_penalty_le p.borrowSupply
    rw [pledgeOwed_of_open isOpen]
    refine (add_le_add owed (le_refl (bpsOf p.borrowSupply rewardBps : ℚ))).trans ?_
    rw [← Nat.cast_add, ← Nat.cast_add, ← Nat.cast_add]
    refine Nat.cast_le.2 (Nat.le_add_right_of_le ?_)
    dsimp only [setAmounts]
    omega
  | recoverLend liquidated _ unrecovered =>
    refine (pledgeOwed_recoverLend liquidated ?_).trans (le_add_of_nonneg_right (Nat.cast_nonneg _))
    simp [unrecoveredOf, unrecovered]
  | recoverBorrow liquidated _ unrecovered =>
    refine (pledgeOwed_recoverBorrow liquidated ?_).trans (le_add_of_nonneg_right (Nat.cast_nonneg _))
    simp [unrecoveredPledgeOf, unrecovered]

end TermLending.Pool
