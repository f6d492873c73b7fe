import TermLending.Proofs.Pool.Shape

/-!
# Receipts and positions

Each position says how many receipts were created for it. Receipts change hands and are destroyed, so what exists of
them is at most what the positions say together.
-/

namespace TermLending.Pool

open Finset

variable {p p' : Pool} {s : Scene} {t : Transition} {user : Address} {n lend lend' borrow borrow' : Nat}
  {action : Action}

/-! ### Totals after an update -/

theorem sum_setLending (p : Pool) (user : Address) (q : LendPosition) (g : LendPosition → Nat) :
    ∑ u, g ((p.setLending user q).lendPosition u) + g (p.lendPosition user) =
      ∑ u, g (p.lendPosition u) + g q := by
  rw [lendPosition_setLending]
  exact sum_put p.lendPosition user q g

theorem sum_setBorrowing (p : Pool) (user : Address) (q : BorrowPosition) (g : BorrowPosition → Nat) :
    ∑ u, g ((p.setBorrowing user q).borrowPosition u) + g (p.borrowPosition user) =
      ∑ u, g (p.borrowPosition u) + g q := by
  rw [borrowPosition_setBorrowing]
  exact sum_put p.borrowPosition user q g

/-! ### Receipts on record -/

/-- While a pool is matching no receipts are created, and a stake may change. -/
theorem receipts_stake (p : Pool) (user : Address) (n : Nat) (u : Address) :
    ((p.stake user n).lendPosition u).receipts = (p.lendPosition u).receipts := by
  rw [lendPosition_stake]
  exact put_agree (g := LendPosition.receipts) (by rfl) u

theorem receipts_pledge (p : Pool) (user : Address) (n : Nat) (u : Address) :
    ((p.pledge user n).borrowPosition u).receipts = (p.borrowPosition u).receipts := by
  rw [borrowPosition_pledge]
  exact put_agree (g := BorrowPosition.receipts) (by rfl) u

theorem receipts_unstake (fresh : p.lendPosition user = { stake := (p.lendPosition user).stake }) (u : Address) :
    ((p.unstake user n).lendPosition u).receipts = (p.lendPosition u).receipts := by
  rw [lendPosition_unstake fresh]
  refine put_agree (g := LendPosition.receipts) ?_ u
  rw [fresh]

/-- The positions of `p'` say that `lend` and `borrow` more receipts were created than those of `p` say. -/
structure Records (p p' : Pool) (lend borrow : Nat) : Prop where
  lend : ∑ u, (p'.lendPosition u).receipts = ∑ u, (p.lendPosition u).receipts + lend
  borrow : ∑ u, (p'.borrowPosition u).receipts = ∑ u, (p.borrowPosition u).receipts + borrow

theorem Records.of_same (lend : ∀ u, (p'.lendPosition u).receipts = (p.lendPosition u).receipts)
    (borrow : ∀ u, (p'.borrowPosition u).receipts = (p.borrowPosition u).receipts) : Records p p' 0 0 :=
  ⟨sum_congr rfl fun u _ => lend u, sum_congr rfl fun u _ => borrow u⟩

theorem Records.setLending {q : LendPosition} (created : q.receipts = (p.lendPosition user).receipts + n) :
    Records p (p.setLending user q) n 0 := by
  have sum := sum_setLending p user q LendPosition.receipts
  refine ⟨?_, rfl⟩
  omega

theorem Records.setBorrowing {q : BorrowPosition} (created : q.receipts = (p.borrowPosition user).receipts + n) :
    Records p (p.setBorrowing user q) 0 n := by
  have sum := sum_setBorrowing p user q BorrowPosition.receipts
  refine ⟨rfl, ?_⟩
  omega

theorem Records.unstake (user : Address) (n : Nat)
    (fresh : p.lendPosition user = { stake := (p.lendPosition user).stake }) : Records p (p.unstake user n) 0 0 :=
  .of_same (receipts_unstake fresh) fun u => by rw [borrowPosition_unstake]

/-- Whatever receipts an action creates, the position of their owner says so. -/
theorem act_records (shape : p.Shape) (accepted : p.act s action = .ok t) :
    Records p t.pool t.payout.mintLend t.payout.mintBorrow := by
  cases act_effect accepted with
  | depositLend => exact .of_same (receipts_stake p _ _) fun _ => rfl
  | depositBorrow => exact .of_same (fun _ => rfl) (receipts_pledge p _ _)
  | cancelLend cancel | refundPart cancel => exact .unstake _ _ ((shape.lend _).fresh cancel.matching)
  | claimLend _ _ unclaimed =>
    refine .setLending ?_
    rw [(shape.lend _).unclaimed unclaimed, Nat.zero_add]
  | claimBorrow _ _ unclaimed =>
    refine .setBorrowing ?_
    rw [((shape.borrow _).unclaimed unclaimed).2, Nat.zero_add]
  | refundRest | recoverLend => exact .setLending rfl
  | recoverBorrow => exact .setBorrowing rfl
  | withdrawLend | withdrawBorrow | settle | finish | liquidate => exact .of_same (fun _ => rfl) fun _ => rfl

/-! ### Backing -/

/-- No more receipts exist than the positions say were created. -/
structure Backed (p : Pool) (lend borrow : Nat) : Prop where
  lend : lend ≤ ∑ u, (p.lendPosition u).receipts
  borrow : borrow ≤ ∑ u, (p.borrowPosition u).receipts

theorem act_backed (shape : p.Shape) (backed : p.Backed lend borrow)
    (accepted : p.act s action = .ok t) (lends : lend' + t.payout.burnLend ≤ lend + t.payout.mintLend)
    (borrows : borrow' + t.payout.burnBorrow ≤ borrow + t.payout.mintBorrow) : t.pool.Backed lend' borrow' := by
  obtain ⟨lent, pledged⟩ := act_records shape accepted
  obtain ⟨lend_le, borrow_le⟩ := backed
  constructor <;> omega

end TermLending.Pool
