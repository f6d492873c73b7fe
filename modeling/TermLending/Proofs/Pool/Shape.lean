import TermLending.Proofs.Pool.Ledger

/-!
# The shape of the records

What the phase of a pool says about its amounts and about every position in it. Divisions and differences in the
exits have their values because of these clauses, and nothing else checks them.
-/

namespace TermLending

namespace Pool

variable {p p' : Pool} {s : Scene} {t : Transition} {user : Address} {n : Nat}

/-! ### Positions after an update -/

theorem lendPosition_setLending (p : Pool) (user : Address) (q : LendPosition) :
    (p.setLending user q).lendPosition = put p.lendPosition user q := by
  funext u
  unfold setLending lendPosition put
  dsimp only
  split <;> rfl

theorem borrowPosition_setBorrowing (p : Pool) (user : Address) (q : BorrowPosition) :
    (p.setBorrowing user q).borrowPosition = put p.borrowPosition user q := by
  funext u
  unfold setBorrowing borrowPosition put
  dsimp only
  split <;> rfl

theorem lendPosition_stake (p : Pool) (user : Address) (n : Nat) :
    (p.stake user n).lendPosition =
      put p.lendPosition user { p.lendPosition user with stake := (p.lendPosition user).stake + n } :=
  lendPosition_setLending p user _

theorem borrowPosition_pledge (p : Pool) (user : Address) (n : Nat) :
    (p.pledge user n).borrowPosition =
      put p.borrowPosition user { p.borrowPosition user with pledge := (p.borrowPosition user).pledge + n } :=
  borrowPosition_setBorrowing p user _

/-- A position that is cleared reads as an empty one, so only flags and receipts could be lost by that. -/
theorem lendPosition_unstake (fresh : p.lendPosition user = { stake := (p.lendPosition user).stake }) :
    (p.unstake user n).lendPosition = put p.lendPosition user { stake := (p.lendPosition user).stake - n } := by
  unfold unstake keepStake
  rw [fresh]
  dsimp only
  split
  · exact lendPosition_setLending p user _
  · next closed =>
    have none : (p.lendPosition user).stake - n = 0 := by
      have shut : ¬0 < (p.lendPosition user).stake - n := fun left => closed (lend_isOpen_iff.2 left)
      omega
    rw [none]
    funext u
    unfold lendPosition put
    dsimp only
    split <;> rfl

theorem borrowPosition_unstake (p : Pool) (user : Address) (n : Nat) :
    (p.unstake user n).borrowPosition = p.borrowPosition := by
  unfold unstake keepStake
  dsimp only
  split <;> rfl

/-- Taking from a stake writes the lend supply, the roster and one position. -/
theorem unstake_frame (p : Pool) (user : Address) (n : Nat) :
    (p.unstake user n).toTerms = p.toTerms ∧ (p.unstake user n).phase = p.phase ∧
      (p.unstake user n).borrowSupply = p.borrowSupply ∧ (p.unstake user n).toAmounts = p.toAmounts := by
  unfold unstake keepStake
  dsimp only
  split <;> exact ⟨rfl, rfl, rfl, rfl⟩

/-! ### Shapes -/

structure AmountsShape (p : Pool) : Prop where
  matchedLend_le : p.matchedLend ≤ p.lendSupply
  matchedBorrow_le : p.matchedBorrow ≤ p.borrowSupply
  pledged : 0 < p.matchedLend → 0 < p.borrowSupply
  matching : p.phase = .matching → p.toAmounts = {}
  running : p.phase = .running →
    p.finishLend = 0 ∧ p.finishBorrow = 0 ∧ p.recoveryLend = 0 ∧ p.recoveryBorrow = 0
  finished : p.phase = .finished →
    p.finishLend + p.finishBorrow ≤ p.borrowSupply ∧ (p.matchedLend = 0 → p.finishLend = 0) ∧
      p.recoveryLend = 0 ∧ p.recoveryBorrow = 0
  liquidated : p.phase = .liquidated →
    0 < p.matchedLend ∧ p.finishLend = 0 ∧ p.finishBorrow = 0 ∧
      bpsOf p.borrowSupply rewardBps + p.recoveryLend + p.recoveryBorrow = p.borrowSupply

structure LendShape (p : Pool) (q : LendPosition) : Prop where
  fresh : p.phase = .matching → q = { stake := q.stake }
  refunded : q.claimed = true → q.refunded = true
  unclaimed : q.claimed = false → q.receipts = 0
  claimed : q.claimed = true → q.receipts = p.matchedOf q.stake ∨ p.phase = .liquidated ∧ q.receipts = 0
  recovered : q.recovered = true → p.phase = .liquidated

structure BorrowShape (p : Pool) (q : BorrowPosition) : Prop where
  fresh : p.phase = .matching → q = { pledge := q.pledge }
  unclaimed : q.claimed = false → q.borrowed = 0 ∧ q.receipts = 0
  claimed : q.claimed = true →
    q.borrowed = p.drawnOf q.pledge ∧ (q.receipts = q.pledge ∨ p.phase = .liquidated ∧ q.receipts = 0)
  recovered : q.recovered = true → p.phase = .liquidated

structure Shape (p : Pool) : Prop where
  amounts : p.AmountsShape
  lend : ∀ u, p.LendShape (p.lendPosition u)
  borrow : ∀ u, p.BorrowShape (p.borrowPosition u)

theorem LendShape.of_fresh (p : Pool) (n : Nat) : p.LendShape { stake := n } where
  fresh _ := rfl
  refunded := by simp
  unclaimed _ := rfl
  claimed := by simp
  recovered := by simp

theorem BorrowShape.of_fresh (p : Pool) (n : Nat) : p.BorrowShape { pledge := n } where
  fresh _ := rfl
  unclaimed _ := ⟨rfl, rfl⟩
  claimed := by simp
  recovered := by simp

/-- Of the pool, a position's shape sees the phase and the matched share. -/
theorem LendShape.of_same {q : LendPosition} (h : p.LendShape q) (phase : p'.phase = p.phase)
    (matched : p'.matchedOf q.stake = p.matchedOf q.stake) : p'.LendShape q where
  fresh := phase ▸ h.fresh
  refunded := h.refunded
  unclaimed := h.unclaimed
  claimed := by rw [matched, phase]; exact h.claimed
  recovered := phase ▸ h.recovered

theorem BorrowShape.of_same {q : BorrowPosition} (h : p.BorrowShape q) (phase : p'.phase = p.phase)
    (drawn : p'.drawnOf q.pledge = p.drawnOf q.pledge) : p'.BorrowShape q where
  fresh := phase ▸ h.fresh
  unclaimed := h.unclaimed
  claimed := by rw [drawn, phase]; exact h.claimed
  recovered := phase ▸ h.recovered

/-- A running pool that ends leaves the positions as they are. -/
theorem LendShape.advance {q : LendPosition} (h : p.LendShape q) (running : p.phase = .running)
    (phase : p'.phase ≠ .matching) (matched : p'.matchedOf q.stake = p.matchedOf q.stake) : p'.LendShape q where
  fresh matching := absurd matching phase
  refunded := h.refunded
  unclaimed := h.unclaimed
  claimed claimed := by
    rcases h.claimed claimed with receipts | ⟨liquidated, _⟩
    · exact .inl (matched ▸ receipts)
    · rw [running] at liquidated
      cases liquidated
  recovered recovered := by
    have liquidated := h.recovered recovered
    rw [running] at liquidated
    cases liquidated

theorem BorrowShape.advance {q : BorrowPosition} (h : p.BorrowShape q) (running : p.phase = .running)
    (phase : p'.phase ≠ .matching) (drawn : p'.drawnOf q.pledge = p.drawnOf q.pledge) : p'.BorrowShape q where
  fresh matching := absurd matching phase
  unclaimed := h.unclaimed
  claimed claimed := by
    obtain ⟨borrowed, receipts | ⟨liquidated, _⟩⟩ := h.claimed claimed
    · exact ⟨drawn ▸ borrowed, .inl receipts⟩
    · rw [running] at liquidated
      cases liquidated
  recovered recovered := by
    have liquidated := h.recovered recovered
    rw [running] at liquidated
    cases liquidated

/-! ### Every action keeps the shapes -/

theorem shape_new (terms : Terms) : ({ toTerms := terms } : Pool).Shape where
  amounts := by
    refine ⟨Nat.le_refl _, Nat.le_refl _, fun some => some, fun _ => rfl, fun running => ?_, fun finished => ?_,
      fun liquidated => ?_⟩
    · cases running
    · cases finished
    · cases liquidated
  lend _ := LendShape.of_fresh _ 0
  borrow _ := BorrowShape.of_fresh _ 0

/-- While a pool is matching its supplies may change at will. -/
theorem AmountsShape.of_matching (matching : p.phase = .matching) (amounts : p.toAmounts = {}) : p.AmountsShape := by
  have matchedLend : p.matchedLend = 0 := congrArg Amounts.matchedLend amounts
  have matchedBorrow : p.matchedBorrow = 0 := congrArg Amounts.matchedBorrow amounts
  refine ⟨by omega, by omega, by omega, fun _ => amounts, ?_, ?_, ?_⟩ <;> simp [matching]

theorem Shape.setLending {q : LendPosition} (h : p.Shape) (shape : p.LendShape q) : (p.setLending user q).Shape where
  amounts := ⟨h.amounts.1, h.amounts.2, h.amounts.3, h.amounts.4, h.amounts.5, h.amounts.6, h.amounts.7⟩
  lend := by
    rw [lendPosition_setLending]
    exact put_forall (fun u => (h.lend u).of_same rfl rfl) (shape.of_same rfl rfl)
  borrow u := (h.borrow u).of_same rfl rfl

theorem Shape.setBorrowing {q : BorrowPosition} (h : p.Shape) (shape : p.BorrowShape q) :
    (p.setBorrowing user q).Shape where
  amounts := ⟨h.amounts.1, h.amounts.2, h.amounts.3, h.amounts.4, h.amounts.5, h.amounts.6, h.amounts.7⟩
  lend u := (h.lend u).of_same rfl rfl
  borrow := by
    rw [borrowPosition_setBorrowing]
    exact put_forall (fun u => (h.borrow u).of_same rfl rfl) (shape.of_same rfl rfl)

theorem Shape.stake (h : p.Shape) (matching : p.phase = .matching) : (p.stake user n).Shape where
  amounts := .of_matching matching (h.amounts.matching matching)
  lend := by
    rw [lendPosition_stake, (h.lend user).fresh matching]
    refine put_forall (fun u => ?_) (LendShape.of_fresh _ _)
    rw [(h.lend u).fresh matching]
    exact LendShape.of_fresh _ _
  borrow u := (h.borrow u).of_same rfl rfl

theorem Shape.pledge (h : p.Shape) (matching : p.phase = .matching) : (p.pledge user n).Shape where
  amounts := .of_matching matching (h.amounts.matching matching)
  lend u := (h.lend u).of_same rfl rfl
  borrow := by
    rw [borrowPosition_pledge, (h.borrow user).fresh matching]
    refine put_forall (fun u => ?_) (BorrowShape.of_fresh _ _)
    rw [(h.borrow u).fresh matching]
    exact BorrowShape.of_fresh _ _

theorem Shape.unstake (h : p.Shape) (matching : p.phase = .matching) : (p.unstake user n).Shape := by
  obtain ⟨_, phase, supply, amounts⟩ := unstake_frame p user n
  have matching' := phase.trans matching
  refine ⟨.of_matching matching' (amounts.trans (h.amounts.matching matching)), ?_, fun u => ?_⟩
  · rw [lendPosition_unstake ((h.lend user).fresh matching)]
    refine put_forall (fun u => ?_) (LendShape.of_fresh _ _)
    rw [(h.lend u).fresh matching]
    exact LendShape.of_fresh _ _
  · rw [borrowPosition_unstake, (h.borrow u).fresh matching]
    exact BorrowShape.of_fresh _ _

theorem Shape.settle {amounts : Amounts} (h : p.Shape) (matching : p.phase = .matching)
    (settled : p.settledAmounts s = .ok amounts) : (p.setAmounts amounts .running).Shape := by
  have zero := h.amounts.matching matching
  refine ⟨?_, fun u => ?_, fun u => ?_⟩
  · rcases settledAmounts_cases settled with rfl | ⟨lent, pledged, lend, borrow, lend_le, borrow_le, rfl⟩
    · rw [zero]
      exact ⟨Nat.zero_le _, Nat.zero_le _, fun some => absurd some (Nat.lt_irrefl 0), fun _ => rfl,
        fun _ => ⟨rfl, rfl, rfl, rfl⟩, nofun, nofun⟩
    · rw [zero]
      exact ⟨lend_le, borrow_le, fun _ => pledged, nofun, fun _ => ⟨rfl, rfl, rfl, rfl⟩,
        nofun, nofun⟩
  · have fresh := (h.lend u).fresh matching
    change LendShape _ (p.lendPosition u)
    rw [fresh]
    exact LendShape.of_fresh _ _
  · have fresh := (h.borrow u).fresh matching
    change BorrowShape _ (p.borrowPosition u)
    rw [fresh]
    exact BorrowShape.of_fresh _ _

theorem Shape.finish {parts : Split} (h : p.Shape) (running : p.phase = .running) (split : p.split s = .ok parts) :
    (p.setAmounts { p.toAmounts with finishLend := parts.lend, finishBorrow := parts.borrow } .finished).Shape where
  amounts := by
    obtain ⟨_, _, recoveryLend, recoveryBorrow⟩ := h.amounts.running running
    obtain ⟨exact, unmatched⟩ := split_exact split
    refine ⟨h.amounts.matchedLend_le, h.amounts.matchedBorrow_le, h.amounts.pledged, nofun,
      nofun, fun _ => ⟨?_, unmatched, recoveryLend, recoveryBorrow⟩,
      nofun⟩
    change parts.lend + parts.borrow ≤ p.borrowSupply
    omega
  lend u := (h.lend u).advance running nofun rfl
  borrow u := (h.borrow u).advance running nofun rfl

theorem Shape.liquidate (h : p.Shape) (running : p.phase = .running) (matched : 0 < p.matchedLend) :
    let reward := bpsOf p.borrowSupply rewardBps
    let recoveryLend := bpsOf p.borrowSupply penaltyBps
    (p.setAmounts
      { p.toAmounts with recoveryLend, recoveryBorrow := p.borrowSupply - reward - recoveryLend } .liquidated).Shape where
  amounts := by
    obtain ⟨finishLend, finishBorrow, _, _⟩ := h.amounts.running running
    refine ⟨h.amounts.matchedLend_le, h.amounts.matchedBorrow_le, h.amounts.pledged, nofun,
      nofun, nofun,
      fun _ => ⟨matched, finishLend, finishBorrow, ?_⟩⟩
    have fits := reward_add_penalty_le p.borrowSupply
    change bpsOf p.borrowSupply rewardBps + bpsOf p.borrowSupply penaltyBps +
      (p.borrowSupply - bpsOf p.borrowSupply rewardBps - bpsOf p.borrowSupply penaltyBps) = p.borrowSupply
    omega
  lend u := (h.lend u).advance running nofun rfl
  borrow u := (h.borrow u).advance running nofun rfl

theorem ne_matching_of_settled {phase : Phase} (settled : phase.isSettled = true) : phase ≠ .matching := by
  rintro rfl
  cases settled

theorem act_shape {action : Action} (h : p.Shape) (accepted : p.act s action = .ok t) : t.pool.Shape := by
  cases act_effect accepted with
  | depositLend deposit => exact h.stake deposit.matching
  | depositBorrow deposit => exact h.pledge deposit.matching
  | cancelLend cancel | refundPart cancel => exact h.unstake cancel.matching
  | refundRest settled =>
    exact h.setLending ⟨fun matching => absurd matching (ne_matching_of_settled settled), fun _ => rfl,
      (h.lend _).unclaimed, (h.lend _).claimed, (h.lend _).recovered⟩
  | claimLend settled =>
    refine h.setLending ⟨fun matching => absurd matching (ne_matching_of_settled settled), fun _ => rfl,
      nofun, fun _ => ?_, (h.lend _).recovered⟩
    dsimp only [receiptsOf]
    split
    · next liquidated => exact .inr ⟨liquidated, rfl⟩
    · exact .inl rfl
  | claimBorrow settled =>
    refine h.setBorrowing ⟨fun matching => absurd matching (ne_matching_of_settled settled),
      nofun, fun _ => ⟨rfl, ?_⟩, (h.borrow _).recovered⟩
    dsimp only [pledgeReceiptsOf]
    split
    · next liquidated => exact .inr ⟨liquidated, rfl⟩
    · exact .inl rfl
  | withdrawLend | withdrawBorrow => exact h
  | settle matching _ settled => exact h.settle matching settled
  | finish running _ split => exact h.finish running split
  | liquidate running _ read small low => exact h.liquidate running (matched_of_unhealthy read small low)
  | recoverLend liquidated =>
    refine h.setLending ⟨fun matching => ?_, (h.lend _).refunded, (h.lend _).unclaimed, (h.lend _).claimed,
      fun _ => liquidated⟩
    rw [liquidated] at matching
    cases matching
  | recoverBorrow liquidated =>
    refine h.setBorrowing ⟨fun matching => ?_, (h.borrow _).unclaimed, (h.borrow _).claimed, fun _ => liquidated⟩
    rw [liquidated] at matching
    cases matching

end Pool

end TermLending
