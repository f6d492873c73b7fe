import TermLending.Proofs.Pool.Obligations

/-!
# Ways out of a pool

Once its ledger and its records are in order, a pool accepts an exit from everyone who is entitled to it, and tells
everyone else why not. Whatever else an exit divides by or takes from is there.
-/

namespace TermLending

/-- The reasons why somebody is not entitled to an exit. -/
def Fault.isRefusal : Fault → Bool
  | wrongPhase | depositsClosed | zeroAmount | insufficientStake | noLendPosition | noBorrowPosition | alreadyClaimed
  | alreadyRefunded | alreadyWithdrawn | nothingToRefund => true
  | _ => false

section

variable {α β : Type} {x : Except Fault α} {k : α → Except Fault β} {P Q : Prop}

/-- Succeeds for those who are entitled, and gives the others a reason. -/
structure Decides {α : Type} (x : Except Fault α) (entitled : Prop) : Prop where
  granted : (∃ a, x = .ok a) ↔ entitled
  refused : ∀ fault, x = .error fault → fault.isRefusal = true

theorem Decides.of_ok {a : α} (h : x = .ok a) : Decides x True where
  granted := ⟨fun _ => trivial, fun _ => ⟨a, h⟩⟩
  refused := by
    intro fault failed
    rw [h] at failed
    cases failed

theorem Decides.congr (h : Decides x P) (same : P ↔ Q) : Decides x Q := ⟨h.granted.trans same, h.refused⟩

theorem decides_demand [Decidable P] {reason : Fault} (refusal : reason.isRefusal = true) :
    Decides (demand P reason) P := by
  by_cases entitled : P
  · rw [demand_of_true entitled]
    exact (Decides.of_ok rfl).congr (iff_of_true trivial entitled)
  · rw [demand_of_false entitled]
    refine ⟨iff_of_false nofun entitled, ?_⟩
    rintro fault ⟨⟩
    exact refusal

theorem Decides.bind (first : Decides x P) (rest : ∀ a, x = .ok a → P → Decides (k a) Q) : Decides (x >>= k) (P ∧ Q) := by
  cases done : x with
  | error fault =>
    refine ⟨iff_of_false nofun ?_, ?_⟩
    · rintro ⟨entitled, _⟩
      obtain ⟨a, ok⟩ := first.granted.2 entitled
      rw [done] at ok
      cases ok
    · rintro fault' ⟨⟩
      exact first.refused fault done
  | ok a =>
    have entitled := first.granted.1 ⟨a, done⟩
    exact (rest a done entitled).congr (and_iff_right entitled).symm

theorem Decides.demand [Decidable P] {reason : Fault} {k : Unit → Except Fault β} (refusal : reason.isRefusal = true)
    (rest : P → Decides (k ()) Q) : Decides (demand P reason >>= k) (P ∧ Q) :=
  (decides_demand refusal).bind fun _ _ entitled => rest entitled

end

namespace Pool

variable {p : Pool} {s : Scene} {t : Transition} {lend borrow n : Nat} {token : Token} {user : Address}

theorem lendSupply_pos (ledger : p.Ledger) (staked : 0 < (p.lendPosition user).stake) : 0 < p.lendSupply :=
  Nat.lt_of_lt_of_le staked (ledger.stake_le user)

theorem borrowSupply_pos (ledger : p.Ledger) (pledged : 0 < (p.borrowPosition user).pledge) : 0 < p.borrowSupply :=
  Nat.lt_of_lt_of_le pledged (ledger.pledge_le user)

theorem cancelLend_decides (ledger : p.Ledger) : Decides (p.act s (.cancelLend n))
    (p.phase = .matching ∧ s.now < p.settleTime ∧ 0 < n ∧ n ≤ (p.lendPosition s.caller).stake) := by
  refine Decides.congr (P := p.phase = .matching ∧ p.acceptsDeposits s.now = true ∧ 0 < n ∧
    n ≤ (p.lendPosition s.caller).stake ∧ True) ?_ (by rw [acceptsDeposits_iff]; tauto)
  refine .demand rfl fun matching => .demand rfl fun early => .demand rfl fun positive => .demand rfl fun held => ?_
  have supplied := held.trans (ledger.stake_le s.caller)
  exact .of_ok (bind_eq_ok_iff.2 ⟨_, difference_eq_ok_iff.2 ⟨held, rfl⟩,
    bind_eq_ok_iff.2 ⟨_, difference_eq_ok_iff.2 ⟨supplied, rfl⟩, rfl⟩⟩)

theorem refundUnmatched_decides (shape : p.Shape) : Decides (p.act s (.refundLend none))
    (p.phase.isSettled = true ∧ 0 < (p.lendPosition s.caller).stake ∧ (p.lendPosition s.caller).claimed = false ∧
      (p.lendPosition s.caller).refunded = false ∧ 0 < p.unmatchedOf (p.lendPosition s.caller).stake) := by
  rw [← lend_isOpen_iff]
  have known : p.unmatched (p.lendPosition s.caller).stake = .ok (p.unmatchedOf (p.lendPosition s.caller).stake) :=
    unmatched_eq_ok_iff.2 ⟨.inr shape.amounts.matchedLend_le, rfl⟩
  refine .demand rfl fun settled => .demand rfl fun staked => .demand rfl fun unclaimed => .demand rfl fun first => ?_
  rw [known]
  show Decides (demand (0 < p.unmatchedOf (p.lendPosition s.caller).stake) .nothingToRefund >>= _) _
  exact Decides.congr (.demand rfl fun due => .of_ok rfl) (and_iff_left trivial)

theorem claimLend_decides (shape : p.Shape) : Decides (p.act s .claimLend)
    (p.phase.isSettled = true ∧ 0 < (p.lendPosition s.caller).stake ∧ (p.lendPosition s.caller).claimed = false) := by
  rw [← lend_isOpen_iff]
  have refund : p.refundFor (p.lendPosition s.caller) = .ok (p.refundOf (p.lendPosition s.caller)) :=
    refundFor_eq_ok_iff.2 ⟨.inr (.inr shape.amounts.matchedLend_le), rfl⟩
  refine .demand rfl fun settled => .demand rfl fun staked => ?_
  refine Decides.congr (.demand rfl fun unclaimed => ?_) (and_iff_left trivial)
  rw [receiptsFor_eq, refund]
  exact .of_ok rfl

theorem claimBorrow_decides (ledger : p.Ledger) : Decides (p.act s .claimBorrow)
    (p.phase.isSettled = true ∧ 0 < (p.borrowPosition s.caller).pledge ∧
      (p.borrowPosition s.caller).claimed = false) := by
  rw [← borrow_isOpen_iff]
  refine .demand rfl fun settled => .demand rfl fun pledged => ?_
  refine Decides.congr (.demand rfl fun unclaimed => ?_) (and_iff_left trivial)
  have supplied := borrowSupply_pos ledger (borrow_isOpen_iff.1 pledged)
  have drawn : p.drawn (p.borrowPosition s.caller).pledge = .ok (p.drawnOf (p.borrowPosition s.caller).pledge) :=
    drawn_eq_ok_iff.2 ⟨by omega, rfl⟩
  rw [drawn]
  exact .of_ok rfl

theorem receiptsPaid_decides {given : Except Fault Token} (known : given = .ok token) (notCoin : token ≠ .native)
    (attached : s.attached = [⟨token, n⟩]) : Decides (receiptsPaid s given) (0 < n) := by
  have sole : soleToken s.attached = .ok ⟨token, n⟩ := soleToken_eq_ok_iff.2 ⟨attached, notCoin⟩
  rw [receiptsPaid, known, sole]
  show Decides (demand (token = token) .wrongPaymentToken >>= fun _ => demand (0 < n) .zeroAmount >>= fun _ => .ok n) _
  rw [demand_of_true rfl]
  exact Decides.congr (.demand rfl fun positive => .of_ok rfl) (and_iff_left trivial)

/-- There are receipts only where something was lent out. -/
theorem withdrawLend_decides (ledger : p.Ledger) (shape : p.Shape) (backed : p.Backed lend borrow)
    (known : s.lendToken = .ok token) (notCoin : token ≠ .native) (attached : s.attached = [⟨token, n⟩])
    (there : n ≤ lend) : Decides (p.act s .withdrawLend) (p.phase = .finished ∧ 0 < n) := by
  refine .demand rfl fun finished => ?_
  refine ((receiptsPaid_decides known notCoin attached).bind fun receipts _ positive => ?_).congr (and_iff_left trivial)
  have lent := lendReceipts_le ledger shape.lend backed.lend
  have matched : 0 < p.matchedLend := by omega
  have worth : p.lendPayout receipts = .ok (p.lendPayoutOf receipts) := mulDiv_eq_ok_iff.2 ⟨by omega, rfl⟩
  rw [demand_of_true matched, worth]
  exact .of_ok rfl

theorem withdrawBorrow_decides (ledger : p.Ledger) (shape : p.Shape) (backed : p.Backed lend borrow)
    (known : s.borrowToken = .ok token) (notCoin : token ≠ .native) (attached : s.attached = [⟨token, n⟩])
    (there : n ≤ borrow) : Decides (p.act s .withdrawBorrow) (p.phase = .finished ∧ 0 < n) := by
  refine .demand rfl fun finished => ?_
  refine ((receiptsPaid_decides known notCoin attached).bind fun receipts _ positive => ?_).congr (and_iff_left trivial)
  have pledged := borrowReceipts_le ledger shape.borrow backed.borrow
  have supplied : 0 < p.borrowSupply := by omega
  have worth : p.borrowPayout receipts = .ok (p.borrowPayoutOf receipts) := mulDiv_eq_ok_iff.2 ⟨by omega, rfl⟩
  rw [demand_of_true supplied, worth]
  exact .of_ok rfl

/-- No pool is liquidated that lent nothing out. -/
theorem recoverLend_decides (ledger : p.Ledger) (shape : p.Shape) : Decides (p.act s .recoverLend)
    (p.phase = .liquidated ∧ 0 < (p.lendPosition s.caller).stake ∧ (p.lendPosition s.caller).recovered = false) := by
  rw [← lend_isOpen_iff]
  refine .demand rfl fun liquidated => .demand rfl fun staked => ?_
  refine Decides.congr (.demand rfl fun first => ?_) (and_iff_left trivial)
  have supplied := lendSupply_pos ledger (lend_isOpen_iff.1 staked)
  have matched := (shape.amounts.liquidated liquidated).1
  have due : p.stakeRecovery (p.lendPosition s.caller).stake = .ok (p.lendRecoveryOf (p.lendPosition s.caller).stake) :=
    stakeRecovery_eq_ok_iff.2 ⟨by omega, by omega, rfl⟩
  rw [due]
  exact .of_ok rfl

theorem recoverBorrow_decides (ledger : p.Ledger) : Decides (p.act s .recoverBorrow)
    (p.phase = .liquidated ∧ 0 < (p.borrowPosition s.caller).pledge ∧
      (p.borrowPosition s.caller).recovered = false) := by
  rw [← borrow_isOpen_iff]
  refine .demand rfl fun liquidated => .demand rfl fun pledged => ?_
  refine Decides.congr (.demand rfl fun first => ?_) (and_iff_left trivial)
  have supplied := borrowSupply_pos ledger (borrow_isOpen_iff.1 pledged)
  have due : p.pledgeRecovery (p.borrowPosition s.caller).pledge =
      .ok (p.borrowRecoveryOf (p.borrowPosition s.caller).pledge) :=
    pledgeRecovery_eq_ok_iff.2 ⟨by omega, rfl⟩
  rw [due]
  exact .of_ok rfl

/-- What needs no approval pays the caller. -/
theorem act_recipient {action : Action} (ungated : action.isGated = false) (accepted : p.act s action = .ok t) :
    t.payout.recipient = s.caller := by
  cases act_effect accepted with
  | settle | finish => cases ungated
  | _ => rfl

end Pool

end TermLending
