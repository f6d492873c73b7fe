import TermLending.Proofs.Pool.Shape

/-!
# What is final

Terms never change. Settlement makes the supplies, the stakes, the pledges and the matched amounts final, and an ending
makes all amounts final. Nothing leads back from a later phase to an earlier one.
-/

namespace TermLending

namespace Pool

variable {p p' p'' : Pool} {s : Scene} {t : Transition} {user : Address} {n : Nat}

structure Later (p p' : Pool) : Prop where
  terms : p'.toTerms = p.toTerms
  settled : p.phase.isSettled = true → p'.phase.isSettled = true
  lendSupply : p.phase.isSettled = true → p'.lendSupply = p.lendSupply
  borrowSupply : p.phase.isSettled = true → p'.borrowSupply = p.borrowSupply
  matchedLend : p.phase.isSettled = true → p'.matchedLend = p.matchedLend
  stake : p.phase.isSettled = true → ∀ u, (p'.lendPosition u).stake = (p.lendPosition u).stake
  pledge : p.phase.isSettled = true → ∀ u, (p'.borrowPosition u).pledge = (p.borrowPosition u).pledge
  ended : p.phase.isTerminal = true → p'.phase = p.phase ∧ p'.toAmounts = p.toAmounts

theorem Later.refl (p : Pool) : p.Later p :=
  ⟨rfl, id, fun _ => rfl, fun _ => rfl, fun _ => rfl, fun _ _ => rfl, fun _ _ => rfl, fun _ => ⟨rfl, rfl⟩⟩

theorem Later.trans (h : p.Later p') (h' : p'.Later p'') : p.Later p'' where
  terms := h'.terms.trans h.terms
  settled settled := h'.settled (h.settled settled)
  lendSupply settled := (h'.lendSupply (h.settled settled)).trans (h.lendSupply settled)
  borrowSupply settled := (h'.borrowSupply (h.settled settled)).trans (h.borrowSupply settled)
  matchedLend settled := (h'.matchedLend (h.settled settled)).trans (h.matchedLend settled)
  stake settled u := (h'.stake (h.settled settled) u).trans (h.stake settled u)
  pledge settled u := (h'.pledge (h.settled settled) u).trans (h.pledge settled u)
  ended ended := by
    obtain ⟨phase, amounts⟩ := h.ended ended
    obtain ⟨phase', amounts'⟩ := h'.ended (phase ▸ ended)
    exact ⟨phase'.trans phase, amounts'.trans amounts⟩

/-! ### Shares are final -/

theorem receiptsOf_cases (p : Pool) (stake : Nat) : p.receiptsOf stake = 0 ∨ p.receiptsOf stake = p.matchedOf stake := by
  unfold receiptsOf
  split
  · exact .inl rfl
  · exact .inr rfl

theorem pledgeReceiptsOf_cases (p : Pool) (pledge : Nat) :
    p.pledgeReceiptsOf pledge = 0 ∨ p.pledgeReceiptsOf pledge = pledge := by
  unfold pledgeReceiptsOf
  split
  · exact .inl rfl
  · exact .inr rfl

theorem Later.matchedOf (h : p.Later p') (settled : p.phase.isSettled = true) (n : Nat) :
    p'.matchedOf n = p.matchedOf n := by
  unfold Pool.matchedOf
  rw [h.matchedLend settled, h.lendSupply settled]

theorem Later.unmatchedOf (h : p.Later p') (settled : p.phase.isSettled = true) (n : Nat) :
    p'.unmatchedOf n = p.unmatchedOf n := by
  unfold Pool.unmatchedOf
  rw [h.matchedLend settled, h.lendSupply settled]

theorem Later.drawnOf (h : p.Later p') (settled : p.phase.isSettled = true) (n : Nat) :
    p'.drawnOf n = p.drawnOf n := by
  unfold Pool.drawnOf
  rw [h.matchedLend settled, h.borrowSupply settled]

theorem settled_of_liquidated (liquidated : p.phase = .liquidated) : p.phase.isSettled = true := by
  rw [liquidated]
  rfl

theorem Later.lendRecoveryOf (h : p.Later p') (liquidated : p.phase = .liquidated) (n : Nat) :
    p'.lendRecoveryOf n = p.lendRecoveryOf n := by
  have settled := settled_of_liquidated liquidated
  have amounts := (h.ended (by rw [liquidated]; rfl)).2
  have recoveryLend : p'.recoveryLend = p.recoveryLend := congrArg Amounts.recoveryLend amounts
  unfold Pool.lendRecoveryOf
  rw [h.matchedOf settled, h.matchedLend settled, recoveryLend]

theorem Later.borrowRecoveryOf (h : p.Later p') (liquidated : p.phase = .liquidated) (n : Nat) :
    p'.borrowRecoveryOf n = p.borrowRecoveryOf n := by
  have settled := settled_of_liquidated liquidated
  have amounts := (h.ended (by rw [liquidated]; rfl)).2
  have recoveryBorrow : p'.recoveryBorrow = p.recoveryBorrow := congrArg Amounts.recoveryBorrow amounts
  unfold Pool.borrowRecoveryOf
  rw [h.borrowSupply settled, recoveryBorrow]

theorem Later.lendPayoutOf (h : p.Later p') (finished : p.phase = .finished) (n : Nat) :
    p'.lendPayoutOf n = p.lendPayoutOf n := by
  have amounts := (h.ended (by rw [finished]; rfl)).2
  have finishLend : p'.finishLend = p.finishLend := congrArg Amounts.finishLend amounts
  have matchedLend : p'.matchedLend = p.matchedLend := congrArg Amounts.matchedLend amounts
  unfold Pool.lendPayoutOf
  rw [finishLend, matchedLend]

theorem Later.borrowPayoutOf (h : p.Later p') (finished : p.phase = .finished) (n : Nat) :
    p'.borrowPayoutOf n = p.borrowPayoutOf n := by
  have amounts := (h.ended (by rw [finished]; rfl)).2
  have finishBorrow : p'.finishBorrow = p.finishBorrow := congrArg Amounts.finishBorrow amounts
  unfold Pool.borrowPayoutOf
  rw [finishBorrow, h.borrowSupply (by rw [finished]; rfl)]

/-! ### Every action leads forward -/

theorem matching_of_not_settled {phase : Phase} (h : phase.isSettled ≠ true) : phase = .matching := by
  cases phase with
  | matching => rfl
  | _ => exact absurd rfl h

/-- Before settlement all but the terms may change. -/
theorem Later.of_matching (matching : p.phase = .matching) (terms : p'.toTerms = p.toTerms) : p.Later p' := by
  refine ⟨terms, ?_, ?_, ?_, ?_, ?_, ?_, ?_⟩ <;>
    · rw [matching]
      exact nofun

theorem Later.setLending {q : LendPosition} (same : q.stake = (p.lendPosition user).stake) :
    p.Later (p.setLending user q) where
  terms := rfl
  settled := id
  lendSupply _ := rfl
  borrowSupply _ := rfl
  matchedLend _ := rfl
  stake _ := by
    rw [lendPosition_setLending]
    exact put_agree (g := LendPosition.stake) same
  pledge _ _ := rfl
  ended _ := ⟨rfl, rfl⟩

theorem Later.setBorrowing {q : BorrowPosition} (same : q.pledge = (p.borrowPosition user).pledge) :
    p.Later (p.setBorrowing user q) where
  terms := rfl
  settled := id
  lendSupply _ := rfl
  borrowSupply _ := rfl
  matchedLend _ := rfl
  stake _ _ := rfl
  pledge _ := by
    rw [borrowPosition_setBorrowing]
    exact put_agree (g := BorrowPosition.pledge) same
  ended _ := ⟨rfl, rfl⟩

/-- A running pool ends with the amounts that were matched. -/
theorem Later.ending {amounts : Amounts} {phase : Phase} (running : p.phase = .running)
    (matched : amounts.matchedLend = p.matchedLend) (settled : phase.isSettled = true) :
    p.Later (p.setAmounts amounts phase) where
  terms := rfl
  settled _ := settled
  lendSupply _ := rfl
  borrowSupply _ := rfl
  matchedLend _ := matched
  stake _ _ := rfl
  pledge _ _ := rfl
  ended := by
    rw [running]
    exact nofun

theorem act_later {action : Action} (accepted : p.act s action = .ok t) : p.Later t.pool := by
  cases act_effect accepted with
  | depositLend deposit | depositBorrow deposit => exact .of_matching deposit.matching rfl
  | cancelLend cancel | refundPart cancel => exact .of_matching cancel.matching (unstake_frame p _ _).1
  | refundRest | claimLend | recoverLend => exact .setLending rfl
  | claimBorrow | recoverBorrow => exact .setBorrowing rfl
  | withdrawLend | withdrawBorrow => exact .refl p
  | settle matching => exact .of_matching matching rfl
  | finish running | liquidate running => exact .ending running rfl rfl

end Pool

end TermLending
