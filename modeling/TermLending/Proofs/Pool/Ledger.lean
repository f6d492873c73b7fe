import TermLending.Proofs.Pool.Effects
import TermLending.Proofs.Rosters
import TermLending.Proofs.Sums

/-!
# The ledger of a pool

A pool keeps each side three times: the supply, the stored positions and the roster of users. Every action keeps the
three in agreement, and no deposit takes the lend side past its cap.
-/

namespace TermLending

/-! ### One side of a pool -/

section

variable {P : Type} {supply : Nat} {members : Roster Address} {stored : Address → Option P} {units : P → Nat}
  {user : Address} {position : P} {n : Nat}

/-- What the stored position of a user counts, nothing where none is stored. -/
def unitsOf (stored : Address → Option P) (units : P → Nat) (user : Address) : Nat := (stored user).elim 0 units

/-- The supply is the sum of the stored positions, and the members are the users who have one. -/
structure Tallied (supply : Nat) (members : Roster Address) (stored : Address → Option P) (units : P → Nat) :
    Prop where
  supply_eq : supply = ∑ u, unitsOf stored units u
  nodup : members.items.Nodup
  mem_iff : ∀ u, u ∈ members ↔ 0 < unitsOf stored units u
  stored_iff : ∀ u, (stored u).isSome ↔ 0 < unitsOf stored units u

theorem unitsOf_put (stored : Address → Option P) (units : P → Nat) (user : Address) (position : Option P) :
    unitsOf (put stored user position) units = put (unitsOf stored units) user (position.elim 0 units) := by
  funext u
  unfold unitsOf put
  split <;> rfl

theorem sum_unitsOf_put (stored : Address → Option P) (units : P → Nat) (user : Address) (position : Option P) :
    ∑ u, unitsOf (put stored user position) units u + unitsOf stored units user =
      ∑ u, unitsOf stored units u + position.elim 0 units := by
  rw [unitsOf_put]
  exact sum_put (unitsOf stored units) user (position.elim 0 units) id

theorem tallied_empty : Tallied 0 {} (fun _ => none) units where
  supply_eq := by simp [unitsOf]
  nodup := List.nodup_nil
  mem_iff u := by simp [unitsOf, Roster.mem_iff]
  stored_iff u := by simp [unitsOf]

theorem Tallied.add (h : Tallied supply members stored units) (positive : 0 < n)
    (grown : units position = unitsOf stored units user + n) :
    Tallied (supply + n) (members.insert user) (put stored user (some position)) units where
  supply_eq := by
    have sum := sum_unitsOf_put stored units user (some position)
    rw [Option.elim_some, grown, ← h.supply_eq] at sum
    omega
  nodup := Roster.nodup_insert h.nodup
  mem_iff u := by
    rw [Roster.mem_insert, unitsOf_put, h.mem_iff]
    by_cases same : u = user
    · subst same
      simp [grown, positive]
    · simp [put_of_ne _ _ _ same, same]
  stored_iff u := by
    rw [unitsOf_put]
    by_cases same : u = user
    · subst same
      simp [grown, positive]
    · rw [put_of_ne _ _ _ same, put_of_ne _ _ _ same]
      exact h.stored_iff u

/-- A position that still counts something after `n` units have left. -/
theorem Tallied.reduce (h : Tallied supply members stored units) (positive : 0 < units position)
    (left : units position + n = unitsOf stored units user) :
    Tallied (supply - n) members (put stored user (some position)) units where
  supply_eq := by
    have sum := sum_unitsOf_put stored units user (some position)
    rw [Option.elim_some, ← left, ← h.supply_eq] at sum
    omega
  nodup := h.nodup
  mem_iff u := by
    rw [unitsOf_put, h.mem_iff]
    by_cases same : u = user
    · subst same
      simp only [put_self, Option.elim_some]
      omega
    · rw [put_of_ne _ _ _ same]
  stored_iff u := by
    rw [unitsOf_put]
    by_cases same : u = user
    · subst same
      simp [positive]
    · rw [put_of_ne _ _ _ same, put_of_ne _ _ _ same]
      exact h.stored_iff u

theorem Tallied.rewrite (h : Tallied supply members stored units) (positive : 0 < unitsOf stored units user)
    (same : units position = unitsOf stored units user) :
    Tallied supply members (put stored user (some position)) units :=
  h.reduce (n := 0) (same ▸ positive) same

/-- The last `n` units of a user leave, and the user with them. -/
theorem Tallied.remove (h : Tallied supply members stored units) (all : unitsOf stored units user = n) :
    Tallied (supply - n) (members.erase user) (put stored user none) units where
  supply_eq := by
    have sum := sum_unitsOf_put stored units user none
    rw [Option.elim_none, all, ← h.supply_eq] at sum
    omega
  nodup := Roster.nodup_erase h.nodup
  mem_iff u := by
    rw [Roster.mem_erase h.nodup, unitsOf_put, h.mem_iff]
    by_cases same : u = user
    · subst same
      simp
    · simp [put_of_ne _ _ _ same, same]
  stored_iff u := by
    rw [unitsOf_put]
    by_cases same : u = user
    · subst same
      simp
    · rw [put_of_ne _ _ _ same, put_of_ne _ _ _ same]
      exact h.stored_iff u

end

/-! ### Both sides -/

namespace Pool

variable {p : Pool} {s : Scene} {t : Transition} {user : Address} {n : Nat}

structure Ledger (p : Pool) : Prop where
  lend : Tallied p.lendSupply p.lenders p.lending LendPosition.stake
  borrow : Tallied p.borrowSupply p.borrowers p.borrowing BorrowPosition.pledge
  capped : p.lendSupply ≤ p.maxSupply

theorem unitsOf_lending (p : Pool) (user : Address) :
    unitsOf p.lending LendPosition.stake user = (p.lendPosition user).stake := by
  unfold unitsOf lendPosition
  cases p.lending user <;> rfl

theorem unitsOf_borrowing (p : Pool) (user : Address) :
    unitsOf p.borrowing BorrowPosition.pledge user = (p.borrowPosition user).pledge := by
  unfold unitsOf borrowPosition
  cases p.borrowing user <;> rfl

theorem Ledger.lendSupply_eq (h : p.Ledger) : p.lendSupply = ∑ u, (p.lendPosition u).stake := by
  simpa only [unitsOf_lending] using h.lend.supply_eq

theorem Ledger.borrowSupply_eq (h : p.Ledger) : p.borrowSupply = ∑ u, (p.borrowPosition u).pledge := by
  simpa only [unitsOf_borrowing] using h.borrow.supply_eq

theorem Ledger.stake_le (h : p.Ledger) (user : Address) : (p.lendPosition user).stake ≤ p.lendSupply := by
  rw [h.lendSupply_eq]
  exact Finset.single_le_sum (f := fun u => (p.lendPosition u).stake) (fun _ _ => Nat.zero_le _) (Finset.mem_univ user)

theorem Ledger.pledge_le (h : p.Ledger) (user : Address) : (p.borrowPosition user).pledge ≤ p.borrowSupply := by
  rw [h.borrowSupply_eq]
  exact Finset.single_le_sum (f := fun u => (p.borrowPosition u).pledge) (fun _ _ => Nat.zero_le _)
    (Finset.mem_univ user)

theorem ledger_new (terms : Terms) : ({ toTerms := terms } : Pool).Ledger where
  lend := tallied_empty
  borrow := tallied_empty
  capped := Nat.zero_le _

theorem Ledger.stake (h : p.Ledger) (positive : 0 < n) (fits : p.lendSupply + n ≤ p.maxSupply) :
    (p.stake user n).Ledger where
  lend := h.lend.add positive (by rw [unitsOf_lending])
  borrow := h.borrow
  capped := fits

theorem Ledger.pledge (h : p.Ledger) (positive : 0 < n) : (p.pledge user n).Ledger where
  lend := h.lend
  borrow := h.borrow.add positive (by rw [unitsOf_borrowing])
  capped := h.capped

theorem Ledger.unstake (h : p.Ledger) (held : n ≤ (p.lendPosition user).stake) : (p.unstake user n).Ledger := by
  have units := unitsOf_lending p user
  unfold Pool.unstake keepStake
  dsimp only
  split
  · next isOpen =>
    have left := lend_isOpen_iff.1 isOpen
    exact {
      lend := h.lend.reduce left (by rw [units]; dsimp only; omega)
      borrow := h.borrow
      capped := (Nat.sub_le _ _).trans h.capped }
  · next closed =>
    have none : ¬0 < (p.lendPosition user).stake - n := fun left => closed (lend_isOpen_iff.2 left)
    exact {
      lend := h.lend.remove (by omega)
      borrow := h.borrow
      capped := (Nat.sub_le _ _).trans h.capped }

theorem Ledger.setLending {q : LendPosition} (h : p.Ledger) (staked : 0 < (p.lendPosition user).stake)
    (same : q.stake = (p.lendPosition user).stake) : (p.setLending user q).Ledger where
  lend := h.lend.rewrite (by rwa [unitsOf_lending]) (by rwa [unitsOf_lending])
  borrow := h.borrow
  capped := h.capped

theorem Ledger.setBorrowing {q : BorrowPosition} (h : p.Ledger) (pledged : 0 < (p.borrowPosition user).pledge)
    (same : q.pledge = (p.borrowPosition user).pledge) : (p.setBorrowing user q).Ledger where
  lend := h.lend
  borrow := h.borrow.rewrite (by rwa [unitsOf_borrowing]) (by rwa [unitsOf_borrowing])
  capped := h.capped

theorem Ledger.setAmounts (h : p.Ledger) (amounts : Amounts) (phase : Phase) : (p.setAmounts amounts phase).Ledger :=
  ⟨h.lend, h.borrow, h.capped⟩

theorem act_ledger {action : Action} (h : p.Ledger) (accepted : p.act s action = .ok t) : t.pool.Ledger := by
  cases act_effect accepted with
  | depositLend deposit fits => exact h.stake deposit.positive fits
  | depositBorrow deposit => exact h.pledge deposit.positive
  | cancelLend cancel | refundPart cancel => exact h.unstake cancel.held
  | refundRest _ staked | claimLend _ staked | recoverLend _ staked => exact h.setLending staked rfl
  | claimBorrow _ pledged | recoverBorrow _ pledged => exact h.setBorrowing pledged rfl
  | withdrawLend | withdrawBorrow => exact h
  | settle | finish | liquidate => exact h.setAmounts _ _

end Pool

end TermLending
