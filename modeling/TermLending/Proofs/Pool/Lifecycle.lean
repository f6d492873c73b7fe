import TermLending.Proofs.Pool.Later

/-!
# The life of a pool

Three actions lead from one phase to the next, each at its time. Of all that a pool keeps, each number is written by few
actions, and a flag that is up is never taken down.
-/

namespace TermLending

namespace Pool

variable {p p' : Pool} {s : Scene} {t : Transition} {caller : Address} {now : Nat} {action : Action}

inductive Passage (p : Pool) (now : Nat) : Action → Phase → Prop where
  | settle (matching : p.phase = .matching) (due : p.settleTime ≤ now) : Passage p now .settle .running
  | finish (running : p.phase = .running) (due : p.endTime ≤ now) : Passage p now .finish .finished
  | liquidate (running : p.phase = .running) (due : p.settleTime ≤ now) : Passage p now .liquidate .liquidated

theorem Passage.cause {phase : Phase} (passage : p.Passage now action phase) :
    action.isGated = true ∨ action = .liquidate ∧ phase = .liquidated := by
  cases passage with
  | settle => exact .inl rfl
  | finish => exact .inl rfl
  | liquidate => exact .inr ⟨rfl, rfl⟩

/-- Only these passages lead from one phase to another. -/
theorem act_passage (accepted : p.act s action = .ok t) :
    t.pool.phase = p.phase ∨ p.Passage s.now action t.pool.phase := by
  cases act_effect accepted with
  | cancelLend | refundPart => exact .inl (unstake_frame p s.caller _).2.1
  | settle matching due => exact .inr (.settle matching due)
  | finish running due => exact .inr (.finish running due)
  | liquidate running due => exact .inr (.liquidate running due)
  | _ => exact .inl rfl

structure SameDeposits (p p' : Pool) : Prop where
  lendSupply : p'.lendSupply = p.lendSupply
  borrowSupply : p'.borrowSupply = p.borrowSupply
  stake : ∀ u, (p'.lendPosition u).stake = (p.lendPosition u).stake
  pledge : ∀ u, (p'.borrowPosition u).pledge = (p.borrowPosition u).pledge

/-- A flag is up afterwards if it was up before, or if the user has just done what it stands for. -/
structure LendMarked (did : Action → Prop) (q q' : LendPosition) : Prop where
  claimed : q'.claimed = true ↔ q.claimed = true ∨ did .claimLend
  refunded : q'.refunded = true ↔ q.refunded = true ∨ did (.refundLend none) ∨ did .claimLend
  recovered : q'.recovered = true ↔ q.recovered = true ∨ did .recoverLend

structure BorrowMarked (did : Action → Prop) (q q' : BorrowPosition) : Prop where
  claimed : q'.claimed = true ↔ q.claimed = true ∨ did .claimBorrow
  recovered : q'.recovered = true ↔ q.recovered = true ∨ did .recoverBorrow

/-- Of supplies, amounts and positions, all that `action` may change when `caller` asks for it at `now`. -/
structure Step (now : Nat) (caller : Address) (action : Action) (p p' : Pool) : Prop where
  deposits : p.phase = .matching ∧ now < p.settleTime ∨ p.SameDeposits p'
  matched : action = .settle ∨ p'.matchedLend = p.matchedLend ∧ p'.matchedBorrow = p.matchedBorrow
  finish : action = .finish ∨ p'.finishLend = p.finishLend ∧ p'.finishBorrow = p.finishBorrow
  recovery : action = .liquidate ∨ p'.recoveryLend = p.recoveryLend ∧ p'.recoveryBorrow = p.recoveryBorrow
  lend : ∀ u, LendMarked (fun a => u = caller ∧ action = a) (p.lendPosition u) (p'.lendPosition u)
  borrow : ∀ u, BorrowMarked (fun a => u = caller ∧ action = a) (p.borrowPosition u) (p'.borrowPosition u)

/-! ### Flags -/

/-- The actions that put up a flag of a lender, and those that put up a flag of a borrower. -/
def Action.marksLender : Action → Bool
  | .refundLend none | .claimLend | .recoverLend => true
  | _ => false

def Action.marksBorrower : Action → Bool
  | .claimBorrow | .recoverBorrow => true
  | _ => false

theorem LendMarked.of_flags {did : Action → Prop} {q q' : LendPosition} (none : ∀ a, did a → a.marksLender = false)
    (claimed : q'.claimed = q.claimed) (refunded : q'.refunded = q.refunded) (recovered : q'.recovered = q.recovered) :
    LendMarked did q q' := by
  have absent (a : Action) (marks : a.marksLender = true) : ¬did a := by
    intro done
    rw [none a done] at marks
    cases marks
  constructor
  · simp [claimed, absent .claimLend rfl]
  · simp [refunded, absent .claimLend rfl, absent (.refundLend .none) rfl]
  · simp [recovered, absent .recoverLend rfl]

theorem BorrowMarked.of_flags {did : Action → Prop} {q q' : BorrowPosition}
    (none : ∀ a, did a → a.marksBorrower = false) (claimed : q'.claimed = q.claimed)
    (recovered : q'.recovered = q.recovered) : BorrowMarked did q q' := by
  have absent (a : Action) (marks : a.marksBorrower = true) : ¬did a := by
    intro done
    rw [none a done] at marks
    cases marks
  constructor
  · simp [claimed, absent .claimBorrow rfl]
  · simp [recovered, absent .recoverBorrow rfl]

/-- Whatever others than lenders do leaves the flags of all lenders as they are. -/
theorem lend_unmarked (quiet : action.marksLender = false)
    (same : ∀ u, (p'.lendPosition u).claimed = (p.lendPosition u).claimed ∧
      (p'.lendPosition u).refunded = (p.lendPosition u).refunded ∧
      (p'.lendPosition u).recovered = (p.lendPosition u).recovered) (u : Address) :
    LendMarked (fun a => u = caller ∧ action = a) (p.lendPosition u) (p'.lendPosition u) := by
  obtain ⟨claimed, refunded, recovered⟩ := same u
  refine .of_flags ?_ claimed refunded recovered
  rintro a ⟨_, rfl⟩
  exact quiet

theorem borrow_unmarked (quiet : action.marksBorrower = false)
    (same : ∀ u, (p'.borrowPosition u).claimed = (p.borrowPosition u).claimed ∧
      (p'.borrowPosition u).recovered = (p.borrowPosition u).recovered) (u : Address) :
    BorrowMarked (fun a => u = caller ∧ action = a) (p.borrowPosition u) (p'.borrowPosition u) := by
  obtain ⟨claimed, recovered⟩ := same u
  refine .of_flags ?_ claimed recovered
  rintro a ⟨_, rfl⟩
  exact quiet

/-! ### Every action is a step -/

theorem SameDeposits.refl (p : Pool) : p.SameDeposits p := ⟨rfl, rfl, fun _ => rfl, fun _ => rfl⟩

theorem Step.refl (p : Pool) (lender : action.marksLender = false) (borrower : action.marksBorrower = false) :
    Step now caller action p p where
  deposits := .inr (.refl p)
  matched := .inr ⟨rfl, rfl⟩
  finish := .inr ⟨rfl, rfl⟩
  recovery := .inr ⟨rfl, rfl⟩
  lend := lend_unmarked lender fun _ => ⟨rfl, rfl, rfl⟩
  borrow := borrow_unmarked borrower fun _ => ⟨rfl, rfl⟩

/-- While deposits are open nobody has a flag up, so a position may be written anew or cleared. -/
theorem Step.early (shape : p.Shape) (shape' : p'.Shape) (matching : p.phase = .matching) (open' : now < p.settleTime)
    (phase : p'.phase = p.phase) (lender : action.marksLender = false)
    (borrower : action.marksBorrower = false) : Step now caller action p p' := by
  have amounts : p'.toAmounts = p.toAmounts := by
    rw [shape.amounts.matching matching, shape'.amounts.matching (phase.trans matching)]
  refine ⟨.inl ⟨matching, open'⟩, .inr ⟨?_, ?_⟩, .inr ⟨?_, ?_⟩, .inr ⟨?_, ?_⟩, ?_, ?_⟩
  · exact congrArg Amounts.matchedLend amounts
  · exact congrArg Amounts.matchedBorrow amounts
  · exact congrArg Amounts.finishLend amounts
  · exact congrArg Amounts.finishBorrow amounts
  · exact congrArg Amounts.recoveryLend amounts
  · exact congrArg Amounts.recoveryBorrow amounts
  · apply lend_unmarked lender
    intro u
    rw [(shape.lend u).fresh matching, (shape'.lend u).fresh (phase.trans matching)]
    exact ⟨rfl, rfl, rfl⟩
  · apply borrow_unmarked borrower
    intro u
    rw [(shape.borrow u).fresh matching, (shape'.borrow u).fresh (phase.trans matching)]
    exact ⟨rfl, rfl⟩

theorem Step.setLending {q : LendPosition} (same : q.stake = (p.lendPosition caller).stake)
    (marked : LendMarked (fun a => action = a) (p.lendPosition caller) q) (borrower : action.marksBorrower = false) :
    Step now caller action p (p.setLending caller q) where
  deposits := by
    refine .inr ⟨rfl, rfl, ?_, fun _ => rfl⟩
    rw [lendPosition_setLending]
    exact put_agree (g := LendPosition.stake) same
  matched := .inr ⟨rfl, rfl⟩
  finish := .inr ⟨rfl, rfl⟩
  recovery := .inr ⟨rfl, rfl⟩
  lend u := by
    rw [lendPosition_setLending]
    by_cases here : u = caller
    · subst here
      rw [put_self]
      simpa only [true_and] using marked
    · rw [put_of_ne _ _ _ here]
      exact .of_flags (fun a done => absurd done.1 here) rfl rfl rfl
  borrow := borrow_unmarked borrower fun _ => ⟨rfl, rfl⟩

theorem Step.setBorrowing {q : BorrowPosition} (same : q.pledge = (p.borrowPosition caller).pledge)
    (marked : BorrowMarked (fun a => action = a) (p.borrowPosition caller) q) (lender : action.marksLender = false) :
    Step now caller action p (p.setBorrowing caller q) where
  deposits := by
    refine .inr ⟨rfl, rfl, fun _ => rfl, ?_⟩
    rw [borrowPosition_setBorrowing]
    exact put_agree (g := BorrowPosition.pledge) same
  matched := .inr ⟨rfl, rfl⟩
  finish := .inr ⟨rfl, rfl⟩
  recovery := .inr ⟨rfl, rfl⟩
  lend := lend_unmarked lender fun _ => ⟨rfl, rfl, rfl⟩
  borrow u := by
    rw [borrowPosition_setBorrowing]
    by_cases here : u = caller
    · subst here
      rw [put_self]
      simpa only [true_and] using marked
    · rw [put_of_ne _ _ _ here]
      exact .of_flags (fun a done => absurd done.1 here) rfl rfl

theorem Step.setAmounts {amounts : Amounts} {phase : Phase} (lender : action.marksLender = false)
    (borrower : action.marksBorrower = false)
    (matched : action = .settle ∨ amounts.matchedLend = p.matchedLend ∧ amounts.matchedBorrow = p.matchedBorrow)
    (finish : action = .finish ∨ amounts.finishLend = p.finishLend ∧ amounts.finishBorrow = p.finishBorrow)
    (recovery : action = .liquidate ∨
      amounts.recoveryLend = p.recoveryLend ∧ amounts.recoveryBorrow = p.recoveryBorrow) :
    Step now caller action p (p.setAmounts amounts phase) where
  deposits := .inr ⟨rfl, rfl, fun _ => rfl, fun _ => rfl⟩
  matched := matched
  finish := finish
  recovery := recovery
  lend := lend_unmarked lender fun _ => ⟨rfl, rfl, rfl⟩
  borrow := borrow_unmarked borrower fun _ => ⟨rfl, rfl⟩

theorem settledAmounts_frame {amounts : Amounts} (h : p.settledAmounts s = .ok amounts) :
    (amounts.finishLend = p.finishLend ∧ amounts.finishBorrow = p.finishBorrow) ∧
      amounts.recoveryLend = p.recoveryLend ∧ amounts.recoveryBorrow = p.recoveryBorrow := by
  rcases settledAmounts_cases h with rfl | ⟨_, _, lend, borrow, _, _, rfl⟩
  · exact ⟨⟨rfl, rfl⟩, rfl, rfl⟩
  · exact ⟨⟨rfl, rfl⟩, rfl, rfl⟩

theorem act_step (shape : p.Shape) (accepted : p.act s action = .ok t) : Step s.now s.caller action p t.pool := by
  have shape' := act_shape shape accepted
  cases act_effect accepted with
  | depositLend deposit | depositBorrow deposit => exact .early shape shape' deposit.matching deposit.early rfl rfl rfl
  | cancelLend cancel | refundPart cancel =>
    exact .early shape shape' cancel.matching cancel.early (unstake_frame p s.caller _).2.1 rfl rfl
  | refundRest | claimLend | recoverLend => refine .setLending rfl ⟨?_, ?_, ?_⟩ rfl <;> simp
  | claimBorrow | recoverBorrow => refine .setBorrowing rfl ⟨?_, ?_⟩ rfl <;> simp
  | withdrawLend | withdrawBorrow => exact .refl p rfl rfl
  | settle _ _ settled =>
    obtain ⟨finish, recovery⟩ := settledAmounts_frame settled
    exact .setAmounts rfl rfl (.inl rfl) (.inr finish) (.inr recovery)
  | finish => exact .setAmounts rfl rfl (.inr ⟨rfl, rfl⟩) (.inl rfl) (.inr ⟨rfl, rfl⟩)
  | liquidate => exact .setAmounts rfl rfl (.inr ⟨rfl, rfl⟩) (.inr ⟨rfl, rfl⟩) (.inl rfl)

end Pool

end TermLending
