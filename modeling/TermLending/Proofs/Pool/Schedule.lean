import TermLending.Proofs.Pool.Arithmetic

/-!
# Keeping the schedule

Terms are accepted up to the largest unsigned word, but settlement and maturity compute with signed ones. Once its time
has come and prices are known, a pool is settled, or finished, exactly if the terms that are needed for that fit. A pool
that cannot be settled is of no use to anybody: deposits can neither be lent out nor be had back.
-/

namespace TermLending

/-! ### Computations on words -/

section

variable {α β : Type} {x : Except Fault α} {k : α → Except Fault β} {a : α} {P Q : Prop}

/-- A computation has a result if `fits` holds, and otherwise meets a number that no signed word holds. -/
structure LimitedTo {α : Type} (fits : Prop) (x : Except Fault α) : Prop where
  granted : fits → ∃ a, x = .ok a
  refused : ¬fits → x = .error .outsideSigned64

theorem LimitedTo.congr (h : LimitedTo P x) (same : P ↔ Q) : LimitedTo Q x := propext same ▸ h

theorem LimitedTo.of_ok (done : x = .ok a) : LimitedTo True x := ⟨fun _ => ⟨a, done⟩, fun no => (no trivial).elim⟩

theorem LimitedTo.bind (first : LimitedTo P x) (rest : ∀ a, x = .ok a → LimitedTo Q (k a)) :
    LimitedTo (P ∧ Q) (x >>= k) := by
  constructor
  · rintro ⟨fits, others⟩
    obtain ⟨a, done⟩ := first.granted fits
    obtain ⟨b, finished⟩ := (rest a done).granted others
    exact ⟨b, bind_eq_ok_iff.2 ⟨a, done, finished⟩⟩
  · intro no
    by_cases fits : P
    · obtain ⟨a, done⟩ := first.granted fits
      have failed := (rest a done).refused fun others => no ⟨fits, others⟩
      exact bind_eq_error_iff.2 (.inr ⟨a, done, failed⟩)
    · exact bind_eq_error_iff.2 (.inl (first.refused fits))

theorem LimitedTo.past (done : x = .ok a) (rest : LimitedTo Q (k a)) : LimitedTo Q (x >>= k) := by
  refine ((LimitedTo.of_ok done).bind fun b same => ?_).congr (and_iff_right trivial)
  rw [done] at same
  cases same
  exact rest

/-- What is left to do cannot fail. -/
theorem LimitedTo.total (first : LimitedTo P x) (rest : ∀ a, x = .ok a → ∃ b, k a = .ok b) :
    LimitedTo P (x >>= k) := by
  refine (first.bind (Q := True) fun a done => ?_).congr (and_iff_left trivial)
  obtain ⟨b, finished⟩ := rest a done
  exact .of_ok finished

theorem LimitedTo.map {f : α → β} (h : LimitedTo P x) : LimitedTo P (do return f (← x)) :=
  h.total fun a _ => ⟨f a, rfl⟩

/-- A number is needed only if `P` does not spare it. -/
theorem LimitedTo.ite [Decidable P] {y : Except Fault α} (done : x = .ok a) (rest : ¬P → LimitedTo Q y) :
    LimitedTo (P ∨ Q) (if P then x else y) := by
  by_cases spared : P
  · rw [if_pos spared]
    exact (LimitedTo.of_ok done).congr (iff_of_true trivial (.inl spared))
  · rw [if_neg spared]
    exact (rest spared).congr (or_iff_right spared).symm

theorem signed64_limited (n : Nat) : LimitedTo (n ≤ maxI64) (signed64 n) :=
  ⟨fun fits => ⟨n, if_pos fits⟩, fun large => if_neg large⟩

theorem due_limited (principal rate : Nat) {time : Nat} (some : time ≠ 0) :
    LimitedTo (rate ≤ maxI64 ∧ time ≤ maxI64) (Interest.due principal rate time) := by
  refine LimitedTo.map (LimitedTo.map ?_)
  unfold Interest.factor
  rw [if_neg some]
  refine (signed64_limited rate).bind fun _ _ => (signed64_limited time).total fun _ _ => ?_
  obtain ⟨fraction, divided⟩ := yearFraction_exists _
  exact ⟨_, bind_pure_eq_ok_iff.2 ⟨fraction, divided, rfl⟩⟩

end

namespace Pool

variable {p : Pool} {s : Scene} {t : Transition} {prices : Prices} {action : Action}

/-! ### Settlement -/

/-- Settlement needs the mortgage rate if both sides have deposits. -/
def Settleable (p : Pool) : Prop := p.lendSupply = 0 ∨ p.borrowSupply = 0 ∨ p.mortgageRate ≤ maxI64

theorem matchSides_limited (sound : p.Sound) (settle : 0 < prices.settle) (pledge : 0 < prices.pledge) :
    LimitedTo (p.mortgageRate ≤ maxI64) (p.matchSides prices) := by
  have carried : LimitedTo (p.mortgageRate ≤ maxI64) (p.capacity p.borrowSupply prices) := by
    refine (signed64_limited _).total fun rate rated => ?_
    obtain ⟨_, rfl⟩ := signed64_eq_ok_iff.1 rated
    have divisor := Nat.mul_ne_zero (Nat.ne_of_gt settle) (Nat.ne_of_gt sound.terms.mortgageRate_pos)
    exact ⟨_, mulDiv_eq_ok_iff.2 ⟨divisor, rfl⟩⟩
  refine carried.total fun capacity computed => ?_
  obtain ⟨rate, rated, _⟩ := bind_eq_ok_iff.1 computed
  split
  · exact ⟨_, rfl⟩
  · have divisor := Nat.mul_ne_zero (Nat.ne_of_gt pledge) (by decide : bpsWhole ≠ 0)
    exact ⟨_, bind_eq_ok_iff.2 ⟨rate, rated, bind_pure_eq_ok_iff.2 ⟨_, mulDiv_eq_ok_iff.2 ⟨divisor, rfl⟩, rfl⟩⟩⟩

theorem settle_limited (sound : p.Sound) (matching : p.phase = .matching) (due : p.settleTime ≤ s.now)
    (priced : s.positivePrices = .ok prices) : LimitedTo p.Settleable (p.settle s) := by
  obtain ⟨_, settle, pledge⟩ := Scene.positivePrices_eq_ok_iff.1 priced
  refine .past (demand_of_true matching) (.past (demand_of_true (decide_eq_true due)) (.map ?_))
  refine (LimitedTo.ite rfl fun _ => ?_).congr or_assoc
  exact .past priced (matchSides_limited sound settle pledge).map

/-! ### Maturity -/

/-- Maturity needs the interest rate and the length of the term if something was lent out. -/
def Finishable (p : Pool) : Prop :=
  p.matchedLend = 0 ∨ p.interestRate ≤ maxI64 ∧ p.endTime - p.settleTime ≤ maxI64

theorem lendersPledge_limited (sound : p.Sound) (pledge : 0 < prices.pledge) :
    LimitedTo (p.interestRate ≤ maxI64 ∧ p.endTime - p.settleTime ≤ maxI64) (p.lendersPledge prices) := by
  have lasting := sound.terms.lasting
  refine .past (difference_eq_ok_iff.2 ⟨Nat.le_of_lt lasting, rfl⟩) ?_
  refine (due_limited _ _ (by omega)).total fun _ _ => ?_
  exact ⟨_, bind_pure_eq_ok_iff.2 ⟨_, mulDiv_eq_ok_iff.2 ⟨Nat.ne_of_gt pledge, rfl⟩, rfl⟩⟩

/-- Fees within the whole leave something of each part, so the split has nothing else to fail at. -/
theorem split_limited (sound : p.Sound) (fees : s.fees.lend ≤ bpsWhole ∧ s.fees.borrow ≤ bpsWhole)
    (priced : s.positivePrices = .ok prices) : LimitedTo p.Finishable (p.split s) := by
  obtain ⟨_, _, pledge⟩ := Scene.positivePrices_eq_ok_iff.1 priced
  have owed : LimitedTo p.Finishable (p.pledgeForLenders s) :=
    .ite rfl fun _ => .past priced (lendersPledge_limited sound pledge)
  have cut (amount : Nat) {rate : Nat} (within : rate ≤ bpsWhole) : applyBps amount rate = .ok (bpsOf amount rate) :=
    applyBps_of_le (within.trans (by decide))
  refine owed.total fun forLenders computed => ?_
  have left : difference p.borrowSupply forLenders = .ok (p.borrowSupply - forLenders) :=
    if_pos (pledgeForLenders_le computed)
  have net (amount : Nat) {rate : Nat} (within : rate ≤ bpsWhole) :
      difference amount (bpsOf amount rate) = .ok (amount - bpsOf amount rate) := if_pos (bpsOf_le within)
  simp only [cut _ fees.1, cut _ fees.2, left, net _ fees.1, net _ fees.2, bind, Except.bind]
  exact ⟨_, rfl⟩

theorem finish_limited (sound : p.Sound) (fees : s.fees.lend ≤ bpsWhole ∧ s.fees.borrow ≤ bpsWhole)
    (running : p.phase = .running) (due : p.endTime ≤ s.now) (priced : s.positivePrices = .ok prices) :
    LimitedTo p.Finishable (p.finish s) :=
  .past (demand_of_true running) (.past (demand_of_true (decide_eq_true due)) (split_limited sound fees priced).map)

/-- What maturity releases is the fees, which are taken from the pledge. -/
theorem finish_payout (h : p.finish s = .ok t) :
    ∃ fees, t.payout = { recipient := s.feeAddress, pledge := fees } ∧ fees ≤ p.borrowSupply := by
  obtain ⟨parts, _, _, split, rfl⟩ := finish_eq_ok_iff.1 h
  have exact := (split_exact split).1
  exact ⟨parts.fees, rfl, by omega⟩

/-! ### Pools that are stuck -/

/-- The time for deposits is over, and settlement would need a number that does not fit. -/
structure Stuck (p : Pool) (now : Nat) : Prop where
  matching : p.phase = .matching
  due : p.settleTime ≤ now
  unfit : ¬p.Settleable

theorem settle_needs (h : p.settle s = .ok t) : p.Settleable := by
  obtain ⟨amounts, _, _, settled, _⟩ := settle_eq_ok_iff.1 h
  rcases settledAmounts_needs settled with ⟨idle, _⟩ | fits
  · exact idle.imp_right .inl
  · exact .inr (.inr fits)

/-- A pool that is stuck accepts nothing, from nobody and at no price. -/
theorem Stuck.refuses (stuck : p.Stuck s.now) (h : p.act s action = .ok t) : False := by
  have early (before : s.now < p.settleTime) : False := Nat.lt_irrefl _ (before.trans_le stuck.due)
  have unsettled (settled : p.phase.isSettled = true) : False := by
    rw [stuck.matching] at settled
    cases settled
  have another {phase : Phase} (there : p.phase = phase) (later : phase.isSettled = true) : False :=
    unsettled (there ▸ later)
  cases act_effect h with
  | depositLend deposit | depositBorrow deposit => exact early deposit.early
  | cancelLend cancel | refundPart cancel => exact early cancel.early
  | refundRest settled | claimLend settled | claimBorrow settled => exact unsettled settled
  | settle => exact stuck.unfit (settle_needs h)
  | withdrawLend there | withdrawBorrow there | finish there | liquidate there | recoverLend there
  | recoverBorrow there => exact another there rfl

end Pool

end TermLending
