import TermLending.Proofs.Pool.Locality

/-!
# Claims made late

A claim may be made before its pool is liquidated or after. Only its receipts depend on that, as a liquidated pool
creates none: what is paid, what is recorded besides, and what can be recovered is the same.
-/

namespace TermLending

/-- The two sides of a loan. -/
inductive Side where
  | lenders
  | borrowers
  deriving DecidableEq, Repr

namespace Side

def claim : Side → Pool.Action
  | lenders => .claimLend
  | borrowers => .claimBorrow

def recover : Side → Pool.Action
  | lenders => .recoverLend
  | borrowers => .recoverBorrow

/-- The contract of the receipts of a side. -/
def contract (side : Side) (terms : Terms) : Address :=
  match side with
  | lenders => terms.lendReceipt
  | borrowers => terms.borrowReceipt

/-- What a claim releases. -/
def payout (side : Side) (user : Address) (settle receipts : Nat) : Payout :=
  match side with
  | lenders => { recipient := user, settle, mintLend := receipts }
  | borrowers => { recipient := user, settle, mintBorrow := receipts }

/-- The receipts that were created for a user, as the pool has them on record. -/
def receipts (side : Side) (p : Pool) (user : Address) : Nat :=
  match side with
  | lenders => (p.lendPosition user).receipts
  | borrowers => (p.borrowPosition user).receipts

/-- The pool with another number of receipts on record. -/
def record (side : Side) (p : Pool) (user : Address) (receipts : Nat) : Pool :=
  match side with
  | lenders => p.setLending user { p.lendPosition user with receipts }
  | borrowers => p.setBorrowing user { p.borrowPosition user with receipts }

theorem isClaim_claim (side : Side) : side.claim.isClaim = true := by
  cases side <;> rfl

end Side

namespace Pool

variable {p q : Pool} {s : Scene} {t t' : Transition} {side : Side} {action : Action} {user : Address}
  {amounts : Amounts}

/-- A claim on a running pool, ending in `t`, and the same claim once the pool is liquidated, ending in `t'`. -/
structure Late (side : Side) (amounts : Amounts) (user : Address) (settle receipts : Nat) (t t' : Transition) :
    Prop where
  payout : t.payout = side.payout user settle receipts
  late : t'.payout = side.payout user settle 0
  none : side.receipts t'.pool user = 0
  pool : t.pool.setAmounts amounts .liquidated = side.record t'.pool user receipts

theorem Late.of_lend (paid : LendPosition) {settle receipts : Nat} {events events' : List Event} :
    Late .lenders amounts user settle receipts
      ⟨p.setLending user { paid with receipts }, { recipient := user, settle, mintLend := receipts }, events⟩
      ⟨(p.setAmounts amounts .liquidated).setLending user { paid with receipts := 0 }, { recipient := user, settle },
        events'⟩ := by
  refine ⟨rfl, rfl, ?_, ?_⟩
  · show LendPosition.receipts (lendPosition _ user) = 0
    rw [lendPosition_setLending, put_self]
  · show setAmounts (setLending ..) .. =
      setLending (setLending ..) user { lendPosition (setLending ..) user with receipts }
    rw [lendPosition_setLending, put_self]
    unfold setLending setAmounts
    rw [put_put]

theorem Late.of_borrow (paid : BorrowPosition) {settle receipts : Nat} {events events' : List Event} :
    Late .borrowers amounts user settle receipts
      ⟨p.setBorrowing user { paid with receipts }, { recipient := user, settle, mintBorrow := receipts }, events⟩
      ⟨(p.setAmounts amounts .liquidated).setBorrowing user { paid with receipts := 0 }, { recipient := user, settle },
        events'⟩ := by
  refine ⟨rfl, rfl, ?_, ?_⟩
  · show BorrowPosition.receipts (borrowPosition _ user) = 0
    rw [borrowPosition_setBorrowing, put_self]
  · show setAmounts (setBorrowing ..) .. =
      setBorrowing (setBorrowing ..) user { borrowPosition (setBorrowing ..) user with receipts }
    rw [borrowPosition_setBorrowing, put_self]
    unfold setBorrowing setAmounts
    rw [put_put]

/-- A claim is refused by a liquidated pool for the same reason as before, or granted by both but for the receipts. -/
theorem claim_late (running : p.phase = .running) (final : amounts.matchedLend = p.matchedLend) (side : Side)
    (s : Scene) :
    Alike (fun _ => False) (fun t t' => ∃ settle receipts, Late side amounts s.caller settle receipts t t')
      (p.act s side.claim) ((p.setAmounts amounts .liquidated).act s side.claim) := by
  have settled : p.phase.isSettled = true := by
    rw [running]
    rfl
  have liquidated : p.phase ≠ .liquidated := by
    rw [running]
    decide
  cases side with
  | lenders =>
    have unmatched (n : Nat) : (p.setAmounts amounts .liquidated).unmatched n = p.unmatched n := by
      unfold Pool.unmatched
      rw [← final]
      rfl
    show Alike _ _ (p.claimLend s) ((p.setAmounts amounts .liquidated).claimLend s)
    unfold claimLend
    refine (Alike.demand (iff_of_true settled rfl) _).bind fun _ _ _ => ?_
    refine (Alike.demand Iff.rfl _).bind fun _ _ _ => ?_
    refine (Alike.demand Iff.rfl _).bind fun _ _ _ => ?_
    have receipts (n : Nat) : Alike (fun _ => False) (fun _ none => none = 0) (p.receiptsFor n)
        ((p.setAmounts amounts .liquidated).receiptsFor n) := by
      rw [receiptsFor_eq]
      exact .ok rfl
    have refund (position : LendPosition) :
        (p.setAmounts amounts .liquidated).refundFor position = p.refundFor position := by
      unfold refundFor
      rw [unmatched]
    refine (receipts _).bind fun created none created' => ?_
    subst created'
    refine (Alike.of_eq (refund _).symm).bind fun settle settle' same => ?_
    subst same
    exact .ok ⟨settle, created, .of_lend { p.lendPosition s.caller with claimed := true, refunded := true }⟩
  | borrowers =>
    have drawn (n : Nat) : (p.setAmounts amounts .liquidated).drawn n = p.drawn n := by
      unfold Pool.drawn
      rw [← final]
      rfl
    show Alike _ _ (p.claimBorrow s) ((p.setAmounts amounts .liquidated).claimBorrow s)
    unfold claimBorrow
    refine (Alike.demand (iff_of_true settled rfl) _).bind fun _ _ _ => ?_
    refine (Alike.demand Iff.rfl _).bind fun _ _ _ => ?_
    refine (Alike.demand Iff.rfl _).bind fun _ _ _ => ?_
    refine (Alike.of_eq (drawn _).symm).bind fun settle settle' same => ?_
    subst same
    have closed : (p.setAmounts amounts .liquidated).phase = .liquidated := rfl
    rw [if_neg liquidated, if_pos closed]
    exact .ok ⟨settle, _, .of_borrow { p.borrowPosition s.caller with claimed := true, borrowed := settle }⟩

/-- Liquidation does not mind a claim. -/
theorem liquidate_after_claim {s' : Scene} {u u' : Transition} (claim : action.isClaim = true)
    (accepted : p.act s action = .ok t) (closed : p.act s' .liquidate = .ok u)
    (ends : u.pool = p.setAmounts amounts .liquidated) (next : t.pool.act s' .liquidate = .ok u') :
    u'.pool = t.pool.setAmounts amounts .liquidated := by
  obtain ⟨f, _, filed⟩ := act_files (Action.exit_of_claim claim) accepted
  rw [filed, liquidate_passes_file f p s', closed] at next
  cases next
  rw [filed]
  show u.pool.file f = _
  rw [ends]
  rfl

/-! ### What can be recovered -/

/-- Pools from which a user recovers the same. -/
structure SameRecovery (user : Address) (p q : Pool) : Prop where
  loan : q.toLoan = p.toLoan
  amounts : q.toAmounts = p.toAmounts
  stake : (q.lendPosition user).stake = (p.lendPosition user).stake
  stakeRecovered : (q.lendPosition user).recovered = (p.lendPosition user).recovered
  pledge : (q.borrowPosition user).pledge = (p.borrowPosition user).pledge
  pledgeRecovered : (q.borrowPosition user).recovered = (p.borrowPosition user).recovered

theorem SameRecovery.setLending {position : LendPosition} (stake : position.stake = (p.lendPosition user).stake)
    (recovered : position.recovered = (p.lendPosition user).recovered) :
    SameRecovery user p (p.setLending user position) := by
  have own : (p.setLending user position).lendPosition user = position := by
    rw [lendPosition_setLending, put_self]
  refine ⟨rfl, rfl, ?_, ?_, rfl, rfl⟩
  · rw [own, stake]
  · rw [own, recovered]

theorem SameRecovery.setBorrowing {position : BorrowPosition}
    (pledge : position.pledge = (p.borrowPosition user).pledge)
    (recovered : position.recovered = (p.borrowPosition user).recovered) :
    SameRecovery user p (p.setBorrowing user position) := by
  have own : (p.setBorrowing user position).borrowPosition user = position := by
    rw [borrowPosition_setBorrowing, put_self]
  refine ⟨rfl, rfl, rfl, rfl, ?_, ?_⟩
  · rw [own, pledge]
  · rw [own, recovered]

theorem record_sameRecovery (side : Side) (p : Pool) (user : Address) (n : Nat) :
    SameRecovery user p (side.record p user n) := by
  cases side with
  | lenders => exact .setLending rfl rfl
  | borrowers => exact .setBorrowing rfl rfl

theorem claim_sameRecovery (claim : action.isClaim = true) (accepted : p.act s action = .ok t) :
    SameRecovery s.caller p t.pool := by
  cases act_effect accepted with
  | refundRest | claimLend => exact .setLending rfl rfl
  | claimBorrow => exact .setBorrowing rfl rfl
  | _ => cases claim

/-- What a user recovers, and whether it is refused, depends on nothing else. -/
theorem recover_alike (same : SameRecovery s.caller p q) (side : Side) :
    Alike (fun _ => False) Transition.Corresponding (p.act s side.recover) (q.act s side.recover) := by
  have terms : q.toTerms = p.toTerms := congrArg Loan.toTerms same.loan
  have phase : q.phase = p.phase := congrArg Loan.phase same.loan
  cases side with
  | lenders =>
    have recovery (n : Nat) : q.stakeRecovery n = p.stakeRecovery n := by
      unfold stakeRecovery
      rw [same.amounts, same.loan]
    show Alike _ _ (p.recoverLend s) (q.recoverLend s)
    unfold recoverLend LendPosition.isOpen
    dsimp only
    rw [phase, same.stake, same.stakeRecovered, recovery]
    refine (Alike.of_eq rfl).bind fun _ _ _ => ?_
    refine (Alike.of_eq rfl).bind fun _ _ _ => ?_
    refine (Alike.of_eq rfl).bind fun _ _ _ => ?_
    refine (Alike.of_eq rfl).bind fun amount amount' equal => ?_
    subst equal
    exact .ok ⟨rfl, rfl, terms⟩
  | borrowers =>
    have recovery (n : Nat) : q.pledgeRecovery n = p.pledgeRecovery n := by
      unfold pledgeRecovery
      rw [same.amounts, same.loan]
    show Alike _ _ (p.recoverBorrow s) (q.recoverBorrow s)
    unfold recoverBorrow BorrowPosition.isOpen
    dsimp only
    rw [phase, same.pledge, same.pledgeRecovered, recovery]
    refine (Alike.of_eq rfl).bind fun _ _ _ => ?_
    refine (Alike.of_eq rfl).bind fun _ _ _ => ?_
    refine (Alike.of_eq rfl).bind fun _ _ _ => ?_
    refine (Alike.of_eq rfl).bind fun amount amount' equal => ?_
    subst equal
    exact .ok ⟨rfl, rfl, terms⟩

end Pool

end TermLending
