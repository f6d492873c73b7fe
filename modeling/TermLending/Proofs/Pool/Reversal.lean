import TermLending.Proofs.Pool.Shape

/-!
# Stakes that are taken back

While a pool is matching, a stake is all that a lend position says. So taking back what was just staked leaves no trace,
and of many deposits and cancellations by one user nothing is left but the net amount.
-/

namespace TermLending

/-- The stored position of a user with a stake of `n`, while the pool is matching. -/
def heldStake (n : Nat) : Option LendPosition := if n = 0 then none else some { stake := n }

namespace Pool

variable {p p₁ p₂ q : Pool} {user : Address} {n : Nat} {net net' : ℤ}

theorem lending_eq_some (ledger : p.Ledger) (staked : 0 < (p.lendPosition user).stake) :
    p.lending user = some (p.lendPosition user) := by
  have stored := (ledger.lend.stored_iff user).2 (by rwa [unitsOf_lending])
  obtain ⟨position, read⟩ := Option.isSome_iff_exists.1 stored
  unfold lendPosition
  rw [read]
  rfl

theorem lending_eq_none (ledger : p.Ledger) (unstaked : (p.lendPosition user).stake = 0) : p.lending user = none := by
  have absent := (ledger.lend.stored_iff user).not.2 (by rw [unitsOf_lending]; omega)
  exact Option.not_isSome_iff_eq_none.1 absent

theorem mem_lenders_iff (ledger : p.Ledger) : user ∈ p.lenders ↔ 0 < (p.lendPosition user).stake := by
  rw [ledger.lend.mem_iff, unitsOf_lending]

theorem lending_eq_heldStake (ledger : p.Ledger) (shape : p.Shape) (matching : p.phase = .matching) (user : Address) :
    p.lending user = heldStake (p.lendPosition user).stake := by
  unfold heldStake
  split
  · next unstaked => exact lending_eq_none ledger unstaked
  · next staked =>
    rw [lending_eq_some ledger (Nat.pos_of_ne_zero staked)]
    exact congrArg some ((shape.lend user).fresh matching)

/-! ### At once -/

/-- A stake that is taken back at once leaves the pool as it was, its list of lenders included. -/
theorem unstake_stake (ledger : p.Ledger) (user : Address) (n : Nat) : (p.stake user n).unstake user n = p := by
  have position : (p.stake user n).lendPosition user =
      { p.lendPosition user with stake := (p.lendPosition user).stake + n } := by
    rw [lendPosition_stake, put_self]
  unfold unstake keepStake
  rw [position]
  dsimp only
  rw [Nat.add_sub_cancel]
  -- A record is kept if the user had one before, and else the user goes off the end of the list again.
  split
  · next isOpen =>
    have staked := lend_isOpen_iff.1 isOpen
    have roster : p.lenders.insert user = p.lenders := Roster.insert_of_mem ((mem_lenders_iff ledger).2 staked)
    have records : put p.lending user (some (p.lendPosition user)) = p.lending := by
      rw [← lending_eq_some ledger staked, put_same]
    unfold stake setLending
    dsimp only
    rw [roster, put_put, records, Nat.add_sub_cancel]
  · next closed =>
    have unstaked : (p.lendPosition user).stake = 0 := Nat.eq_zero_of_not_pos fun left => closed (lend_isOpen_iff.2 left)
    have outside : user ∉ p.lenders := (mem_lenders_iff ledger).not.2 (by omega)
    have records : put p.lending user none = p.lending := by
      rw [← lending_eq_none ledger unstaked, put_same]
    unfold stake setLending
    dsimp only
    rw [Roster.erase_insert outside, put_put, records, Nat.add_sub_cancel]

/-- The time for deposits is the time for cancellations, so what was just staked can be taken back. -/
theorem cancelLend_stake {s : Scene} (ledger : p.Ledger) (matching : p.phase = .matching) (early : s.now < p.settleTime)
    (positive : 0 < n) : (p.stake s.caller n).cancelLend s n = .ok {
      pool := p
      payout := { recipient := s.caller, settle := n }
      events := [.lendCancelled s.caller s.id n] } := by
  have held : n ≤ ((p.stake s.caller n).lendPosition s.caller).stake := by
    rw [lendPosition_stake, put_self]
    exact Nat.le_add_left _ _
  have supplied : n ≤ (p.stake s.caller n).lendSupply := Nat.le_add_left _ _
  refine cancelLend_eq_ok_iff.2 ⟨matching, early, positive, held, supplied, ?_⟩
  rw [unstake_stake ledger]

/-! ### In many steps -/

/-- Nothing differs between two states of a pool but a net amount of one user's stake. -/
structure Restaked (user : Address) (p : Pool) (net : ℤ) (q : Pool) : Prop where
  loan : q.toLoan = { p.toLoan with lendSupply := q.lendSupply }
  amounts : q.toAmounts = p.toAmounts
  supply : (q.lendSupply : ℤ) = p.lendSupply + net
  stake : ((q.lendPosition user).stake : ℤ) = (p.lendPosition user).stake + net
  lending : q.lending = put p.lending user (heldStake (q.lendPosition user).stake)
  others : ∀ a, a ≠ user → (a ∈ q.lenders ↔ a ∈ p.lenders)
  borrowers : q.borrowers = p.borrowers
  borrowing : q.borrowing = p.borrowing

theorem Restaked.refl (ledger : p.Ledger) (shape : p.Shape) (matching : p.phase = .matching) (user : Address) :
    Restaked user p 0 p where
  loan := rfl
  amounts := rfl
  supply := (add_zero _).symm
  stake := (add_zero _).symm
  lending := by rw [← lending_eq_heldStake ledger shape matching, put_same]
  others _ _ := Iff.rfl
  borrowers := rfl
  borrowing := rfl

theorem Restaked.trans (h : Restaked user p net q) (h' : Restaked user q net' p₁) :
    Restaked user p (net + net') p₁ where
  loan := by rw [h'.loan, h.loan]
  amounts := h'.amounts.trans h.amounts
  supply := by rw [h'.supply, h.supply, add_assoc]
  stake := by rw [h'.stake, h.stake, add_assoc]
  lending := by rw [h'.lending, h.lending, put_put]
  others a other := (h'.others a other).trans (h.others a other)
  borrowers := h'.borrowers.trans h.borrowers
  borrowing := h'.borrowing.trans h.borrowing

theorem Restaked.terms (h : Restaked user p net q) : q.toTerms = p.toTerms := by
  show q.toLoan.toTerms = _
  rw [h.loan]

/-- The user is listed while anything is left of the stake. -/
theorem Restaked.listed (h : Restaked user p net q) (ledger : q.Ledger) :
    user ∈ q.lenders ↔ 0 < ((p.lendPosition user).stake : ℤ) + net := by
  rw [mem_lenders_iff ledger, ← h.stake]
  exact Int.natCast_pos.symm

/-- The way does not matter, only the net amount. -/
theorem Restaked.unique (h : Restaked user p net p₁) (h' : Restaked user p net p₂) :
    p₁.toLoan = p₂.toLoan ∧ p₁.toAmounts = p₂.toAmounts ∧ p₁.lending = p₂.lending ∧ p₁.borrowing = p₂.borrowing := by
  have supply : p₁.lendSupply = p₂.lendSupply := Nat.cast_injective (h.supply.trans h'.supply.symm)
  have stake : (p₁.lendPosition user).stake = (p₂.lendPosition user).stake :=
    Nat.cast_injective (h.stake.trans h'.stake.symm)
  refine ⟨?_, h.amounts.trans h'.amounts.symm, ?_, h.borrowing.trans h'.borrowing.symm⟩
  · rw [h.loan, h'.loan, supply]
  · rw [h.lending, h'.lending, stake]

theorem stake_eq (fresh : p.lendPosition user = { stake := (p.lendPosition user).stake }) (positive : 0 < n) :
    p.stake user n = { p with
      lendSupply := p.lendSupply + n
      lenders := p.lenders.insert user
      lending := put p.lending user (heldStake ((p.lendPosition user).stake + n)) } := by
  have staked : (p.lendPosition user).stake + n ≠ 0 := by omega
  unfold Pool.stake setLending heldStake
  rw [if_neg staked, fresh]

theorem unstake_eq (fresh : p.lendPosition user = { stake := (p.lendPosition user).stake }) (n : Nat) :
    p.unstake user n = { p with
      lendSupply := p.lendSupply - n
      lenders := if (p.lendPosition user).stake - n = 0 then p.lenders.erase user else p.lenders
      lending := put p.lending user (heldStake ((p.lendPosition user).stake - n)) } := by
  unfold unstake keepStake heldStake
  rw [fresh]
  dsimp only
  by_cases left : (p.lendPosition user).stake - n = 0
  · have closed : ({ stake := (p.lendPosition user).stake - n } : LendPosition).isOpen = false := by
      rw [left]
      rfl
    rw [closed, if_pos left, if_pos left, if_neg Bool.false_ne_true]
  · have isOpen : ({ stake := (p.lendPosition user).stake - n } : LendPosition).isOpen = true :=
      lend_isOpen_iff.2 (Nat.pos_of_ne_zero left)
    rw [isOpen, if_neg left, if_neg left, if_pos rfl]
    rfl

theorem restaked_stake (shape : p.Shape) (matching : p.phase = .matching) (positive : 0 < n) :
    Restaked user p n (p.stake user n) := by
  have fresh := (shape.lend user).fresh matching
  have position : ((p.stake user n).lendPosition user).stake = (p.lendPosition user).stake + n := by
    rw [lendPosition_stake, put_self]
  refine ⟨rfl, rfl, Nat.cast_add _ _, ?_, ?_, ?_, rfl, rfl⟩
  · rw [position]
    exact Nat.cast_add _ _
  · rw [position, stake_eq fresh positive]
  · intro a other
    exact Roster.mem_insert.trans (or_iff_right other)

theorem restaked_unstake (ledger : p.Ledger) (shape : p.Shape) (matching : p.phase = .matching)
    (held : n ≤ (p.lendPosition user).stake) : Restaked user p (-n) (p.unstake user n) := by
  have fresh := (shape.lend user).fresh matching
  have position : ((p.unstake user n).lendPosition user).stake = (p.lendPosition user).stake - n := by
    rw [lendPosition_unstake fresh, put_self]
  have supplied := held.trans (ledger.stake_le user)
  have stored := unstake_eq fresh n
  refine ⟨?loan, ?amounts, ?supply, ?stake, ?lending, ?others, ?borrowers, ?borrowing⟩
  case supply =>
    rw [stored]
    dsimp only
    omega
  case stake =>
    rw [position]
    omega
  case lending => rw [position, stored]
  case others =>
    intro a other
    rw [stored]
    dsimp only
    split
    · rw [Roster.mem_erase ledger.lend.nodup]
      exact and_iff_right other
    · exact Iff.rfl
  all_goals rw [stored]

end Pool

end TermLending
