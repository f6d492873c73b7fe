import TermLending.Proofs.Pool.Delay

/-!
# What an action cannot reach

A user acts on one side of a pool and reaches, of all positions in it, only the one that is the user's own on that side.
Settlement and both endings take no side and reach no position.
-/

namespace TermLending

namespace Pool

variable {p p' : Pool} {s : Scene} {t : Transition} {caller : Address} {action : Action}

/-- The side that a user takes by an action. -/
def Action.side : Action → Option Side
  | depositLend | cancelLend _ | refundLend _ | claimLend | withdrawLend | recoverLend => some .lenders
  | depositBorrow | claimBorrow | withdrawBorrow | recoverBorrow => some .borrowers
  | settle | finish | liquidate => none

/-- What an action leaves alone: whatever belongs to other users, and either side unless it is the one that it takes. -/
structure Isolated (caller : Address) (action : Action) (p p' : Pool) : Prop where
  positions : ∀ u, u ≠ caller → p'.lending u = p.lending u ∧ p'.borrowing u = p.borrowing u
  rosters : ∀ u, u ≠ caller → (u ∈ p'.lenders ↔ u ∈ p.lenders) ∧ (u ∈ p'.borrowers ↔ u ∈ p.borrowers)
  lenders : action.side ≠ some .lenders → p'.lending = p.lending ∧ p'.lenders = p.lenders
  borrowers : action.side ≠ some .borrowers → p'.borrowing = p.borrowing ∧ p'.borrowers = p.borrowers

/-! ### By what is written -/

theorem Isolated.of_neither (lending : p'.lending = p.lending) (lenders : p'.lenders = p.lenders)
    (borrowing : p'.borrowing = p.borrowing) (borrowers : p'.borrowers = p.borrowers) :
    p.Isolated caller action p' where
  positions u _ := ⟨congrFun lending u, congrFun borrowing u⟩
  rosters u _ := by rw [lenders, borrowers]; exact ⟨.rfl, .rfl⟩
  lenders _ := ⟨lending, lenders⟩
  borrowers _ := ⟨borrowing, borrowers⟩

theorem Isolated.of_lenders (side : action.side = some .lenders)
    (lending : ∀ u, u ≠ caller → p'.lending u = p.lending u)
    (lenders : ∀ u, u ≠ caller → (u ∈ p'.lenders ↔ u ∈ p.lenders))
    (borrowing : p'.borrowing = p.borrowing) (borrowers : p'.borrowers = p.borrowers) :
    p.Isolated caller action p' where
  positions u other := ⟨lending u other, congrFun borrowing u⟩
  rosters u other := ⟨lenders u other, by rw [borrowers]⟩
  lenders none := absurd side none
  borrowers _ := ⟨borrowing, borrowers⟩

theorem Isolated.of_borrowers (side : action.side = some .borrowers)
    (borrowing : ∀ u, u ≠ caller → p'.borrowing u = p.borrowing u)
    (borrowers : ∀ u, u ≠ caller → (u ∈ p'.borrowers ↔ u ∈ p.borrowers))
    (lending : p'.lending = p.lending) (lenders : p'.lenders = p.lenders) :
    p.Isolated caller action p' where
  positions u other := ⟨congrFun lending u, borrowing u other⟩
  rosters u other := ⟨by rw [lenders], borrowers u other⟩
  lenders _ := ⟨lending, lenders⟩
  borrowers none := absurd side none

theorem Isolated.setLending (side : action.side = some .lenders) (q : LendPosition) :
    p.Isolated caller action (p.setLending caller q) :=
  .of_lenders side (fun _ other => put_of_ne _ _ _ other) (fun _ _ => .rfl) rfl rfl

theorem Isolated.setBorrowing (side : action.side = some .borrowers) (q : BorrowPosition) :
    p.Isolated caller action (p.setBorrowing caller q) :=
  .of_borrowers side (fun _ other => put_of_ne _ _ _ other) (fun _ _ => .rfl) rfl rfl

theorem Isolated.stake (side : action.side = some .lenders) (n : Nat) : p.Isolated caller action (p.stake caller n) :=
  .of_lenders side (fun _ other => put_of_ne _ _ _ other) (fun _ other => p.lenders.mem_insert_of_ne other) rfl rfl

theorem Isolated.pledge (side : action.side = some .borrowers) (n : Nat) :
    p.Isolated caller action (p.pledge caller n) :=
  .of_borrowers side (fun _ other => put_of_ne _ _ _ other) (fun _ other => p.borrowers.mem_insert_of_ne other) rfl rfl

/-- What is left of a stake is stored, or the position is cleared and the roster gives up its place. -/
theorem Isolated.unstake (side : action.side = some .lenders) (n : Nat) :
    p.Isolated caller action (p.unstake caller n) := by
  unfold Pool.unstake keepStake
  dsimp only
  split
  · exact .of_lenders side (fun _ other => put_of_ne _ _ _ other) (fun _ _ => .rfl) rfl rfl
  · exact .of_lenders side (fun _ other => put_of_ne _ _ _ other) (fun _ other => p.lenders.mem_erase_of_ne other) rfl rfl

/-! ### Every action -/

theorem act_isolated (accepted : p.act s action = .ok t) : p.Isolated s.caller action t.pool := by
  cases act_effect accepted with
  | depositLend => exact .stake rfl _
  | depositBorrow => exact .pledge rfl _
  | cancelLend | refundPart => exact .unstake rfl _
  | refundRest | claimLend | recoverLend => exact .setLending rfl _
  | claimBorrow | recoverBorrow => exact .setBorrowing rfl _
  | withdrawLend | withdrawBorrow | settle | finish | liquidate => exact .of_neither rfl rfl rfl rfl

end Pool

end TermLending
