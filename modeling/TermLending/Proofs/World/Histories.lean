import TermLending.Proofs.World.Books

/-!
# What positions tell of the journal

The flags of a position say what its user has had. Every action that pays writes the flag that bars it from paying
again, so totals of the journal can be read off the positions.
-/

namespace TermLending.World

open Pool

variable {self u : Address} {w w' : World} {m : Move} {moves : List Move} {J : List Entry} {e : Entry} {id : Nat}
  {p p' : Pool} {s : Scene} {t : Transition} {terms : Terms} {action : Pool.Action}

/-! ### Totals of a journal -/

def Entry.Concerns (e : Entry) (id : Nat) (user : Address) : Prop := e.id = id ∧ e.payout.recipient = user

instance (e : Entry) (id : Nat) (user : Address) : Decidable (e.Concerns id user) :=
  inferInstanceAs (Decidable (_ ∧ _))

def total (J : List Entry) (id : Nat) (user : Address) (amount : Pool.Action → Payout → Nat) : Nat :=
  (J.map fun e => if e.Concerns id user then amount e.action e.payout else 0).sum

def refunds : Pool.Action → Payout → Nat
  | .refundLend none, out | .claimLend, out => out.settle
  | _, _ => 0

def loans : Pool.Action → Payout → Nat
  | .claimBorrow, out => out.settle
  | _, _ => 0

def lendReceipts : Pool.Action → Payout → Nat := fun _ out => out.mintLend

def borrowReceipts : Pool.Action → Payout → Nat := fun _ out => out.mintBorrow

def lendRecoveries : Pool.Action → Payout → Nat
  | .recoverLend, out => out.pledge
  | _, _ => 0

def borrowRecoveries : Pool.Action → Payout → Nat
  | .recoverBorrow, out => out.pledge
  | _, _ => 0

theorem total_snoc (J : List Entry) (e : Entry) (id : Nat) (user : Address) (amount : Pool.Action → Payout → Nat) :
    total (J ++ [e]) id user amount =
      total J id user amount + if e.Concerns id user then amount e.action e.payout else 0 := by
  simp [total]

theorem total_of_concerns {amount : Pool.Action → Payout → Nat} (concerns : e.Concerns id u) :
    total (J ++ [e]) id u amount = total J id u amount + amount e.action e.payout := by
  rw [total_snoc, if_pos concerns]

theorem total_of_quiet {amount : Pool.Action → Payout → Nat}
    (quiet : e.Concerns id u → amount e.action e.payout = 0) : total (J ++ [e]) id u amount = total J id u amount := by
  rw [total_snoc]
  split
  · next concerns => rw [quiet concerns, Nat.add_zero]
  · rfl

def Claimed (J : List Entry) (id : Nat) (user : Address) : Prop :=
  ∃ e ∈ J, e.Concerns id user ∧ e.action = .claimLend

theorem claimed_snoc : Claimed (J ++ [e]) id u ↔ Claimed J id u ∨ e.Concerns id u ∧ e.action = .claimLend := by
  simp only [Claimed, List.mem_append, List.mem_singleton, or_and_right, exists_or, exists_eq_left]

theorem issuable_zero (w : World) (r : Address) : w.issuable r 0 = 0 := by
  rcases issuable_cases w r 0 with zero | zero <;> exact zero

/-! ### What positions tell -/

/-- What a lender has been paid, as the position of the lender has it. -/
structure LendTold (p : Pool) (q : LendPosition) (refunds receipts recoveries : Nat) : Prop where
  refunded : refunds = if q.refunded then p.unmatchedOf q.stake else 0
  received : receipts = 0 ∨ q.claimed = true ∧ receipts = p.matchedOf q.stake
  recovered : recoveries = if q.recovered then p.lendRecoveryOf q.stake else 0

structure BorrowTold (p : Pool) (q : BorrowPosition) (loans receipts recoveries : Nat) : Prop where
  drawn : loans = if q.claimed then p.drawnOf q.pledge else 0
  received : receipts = 0 ∨ q.claimed = true ∧ receipts = q.pledge
  recovered : recoveries = if q.recovered then p.borrowRecoveryOf q.pledge else 0

structure LendFlags (q q' : LendPosition) : Prop where
  refunded : q'.refunded = q.refunded
  claimed : q'.claimed = q.claimed
  recovered : q'.recovered = q.recovered

structure BorrowFlags (q q' : BorrowPosition) : Prop where
  claimed : q'.claimed = q.claimed
  recovered : q'.recovered = q.recovered

theorem LendFlags.of_fresh {q q' : LendPosition} (fresh : q = { stake := q.stake }) (fresh' : q' = { stake := q'.stake }) :
    LendFlags q q' := by
  rw [fresh, fresh']
  exact ⟨rfl, rfl, rfl⟩

theorem BorrowFlags.of_fresh {q q' : BorrowPosition} (fresh : q = { pledge := q.pledge })
    (fresh' : q' = { pledge := q'.pledge }) : BorrowFlags q q' := by
  rw [fresh, fresh']
  exact ⟨rfl, rfl⟩

section

variable {q q' : LendPosition} {a b c n : Nat}

/-- Before settlement there is nothing to tell, and afterwards nothing changes what was told. -/
theorem LendTold.later (h : LendTold p q a b c) (shape : p.LendShape q) (later : p.Later p')
    (stake : p.phase.isSettled = true → q'.stake = q.stake) (flags : LendFlags q q') : LendTold p' q' a b c := by
  obtain ⟨refunded, claimed, recovered⟩ := flags
  by_cases settled : p.phase.isSettled = true
  · constructor
    · rw [refunded, stake settled, later.unmatchedOf settled]
      exact h.refunded
    · rw [claimed, stake settled, later.matchedOf settled]
      exact h.received
    · rw [recovered, h.recovered, stake settled]
      split
      · next done => rw [later.lendRecoveryOf (shape.recovered done)]
      · rfl
  · have fresh := shape.fresh (Pool.matching_of_not_settled settled)
    rw [fresh] at h refunded claimed recovered
    have none := h.received
    simp only [Bool.false_eq_true, false_and, or_false] at none
    constructor
    · rw [refunded]
      exact h.refunded
    · exact .inl none
    · rw [recovered]
      exact h.recovered

theorem LendTold.refund (user : Address) (h : LendTold p q a b c) (first : q.refunded = false) (none : n = 0) :
    LendTold (p.setLending user { q with refunded := true }) { q with refunded := true } (a + p.unmatchedOf q.stake)
      (b + n) c := by
  rw [none, h.refunded, first]
  exact ⟨Nat.zero_add _, h.received, h.recovered⟩

/-- A claim pays back what was not paid back before. -/
theorem LendTold.claim (user : Address) (receipts : Nat) (h : LendTold p q a b c) (first : q.claimed = false)
    (minted : n = 0 ∨ n = p.matchedOf q.stake) :
    LendTold (p.setLending user { q with claimed := true, refunded := true, receipts })
      { q with claimed := true, refunded := true, receipts } (a + p.refundOf q) (b + n) c := by
  have none : b = 0 := by
    rcases h.received with none | ⟨claimed, _⟩
    · exact none
    · rw [first] at claimed
      cases claimed
  refine ⟨?_, ?_, h.recovered⟩
  · rw [h.refunded]
    unfold Pool.refundOf
    split
    · rfl
    · exact Nat.zero_add _
  · rw [none, Nat.zero_add]
    rcases minted with nothing | all
    · exact .inl nothing
    · exact .inr ⟨rfl, all⟩

theorem LendTold.recover (user : Address) (h : LendTold p q a b c) (first : q.recovered = false) (none : n = 0) :
    LendTold (p.setLending user { q with recovered := true }) { q with recovered := true } a (b + n)
      (c + p.lendRecoveryOf q.stake) := by
  rw [none, h.recovered, first]
  exact ⟨h.refunded, h.received, Nat.zero_add _⟩

end

section

variable {q q' : BorrowPosition} {a b c n : Nat}

theorem BorrowTold.later (h : BorrowTold p q a b c) (shape : p.BorrowShape q) (later : p.Later p')
    (pledge : p.phase.isSettled = true → q'.pledge = q.pledge) (flags : BorrowFlags q q') : BorrowTold p' q' a b c := by
  obtain ⟨claimed, recovered⟩ := flags
  by_cases settled : p.phase.isSettled = true
  · constructor
    · rw [claimed, pledge settled, later.drawnOf settled]
      exact h.drawn
    · rw [claimed, pledge settled]
      exact h.received
    · rw [recovered, h.recovered, pledge settled]
      split
      · next done => rw [later.borrowRecoveryOf (shape.recovered done)]
      · rfl
  · have fresh := shape.fresh (Pool.matching_of_not_settled settled)
    rw [fresh] at h claimed recovered
    have none := h.received
    simp only [Bool.false_eq_true, false_and, or_false] at none
    constructor
    · rw [claimed]
      exact h.drawn
    · exact .inl none
    · rw [recovered]
      exact h.recovered

theorem BorrowTold.claim (user : Address) (borrowed receipts : Nat) (h : BorrowTold p q a b c)
    (first : q.claimed = false) (minted : n = 0 ∨ n = q.pledge) :
    BorrowTold (p.setBorrowing user { q with claimed := true, borrowed, receipts })
      { q with claimed := true, borrowed, receipts } (a + p.drawnOf q.pledge) (b + n) c := by
  have none : b = 0 := by
    rcases h.received with none | ⟨claimed, _⟩
    · exact none
    · rw [first] at claimed
      cases claimed
  refine ⟨?_, ?_, h.recovered⟩
  · rw [h.drawn, first]
    exact Nat.zero_add _
  · rw [none, Nat.zero_add]
    rcases minted with nothing | all
    · exact .inl nothing
    · exact .inr ⟨rfl, all⟩

theorem BorrowTold.recover (user : Address) (h : BorrowTold p q a b c) (first : q.recovered = false) (none : n = 0) :
    BorrowTold (p.setBorrowing user { q with recovered := true }) { q with recovered := true } a (b + n)
      (c + p.borrowRecoveryOf q.pledge) := by
  rw [none, h.recovered, first]
  exact ⟨h.drawn, h.received, Nat.zero_add _⟩

end

/-! ### What the journal tells -/

structure LendHistory (J : List Entry) (id : Nat) (p : Pool) (user : Address) : Prop where
  told : LendTold p (p.lendPosition user) (total J id user refunds) (total J id user lendReceipts)
    (total J id user lendRecoveries)
  claimed : Claimed J id user → (p.lendPosition user).claimed = true

def BorrowHistory (J : List Entry) (id : Nat) (p : Pool) (user : Address) : Prop :=
  BorrowTold p (p.borrowPosition user) (total J id user loans) (total J id user borrowReceipts)
    (total J id user borrowRecoveries)

structure Entry.LendQuiet (e : Entry) : Prop where
  refunds : refunds e.action e.payout = 0
  receipts : lendReceipts e.action e.payout = 0
  recoveries : lendRecoveries e.action e.payout = 0
  claim : e.action ≠ .claimLend

structure Entry.BorrowQuiet (e : Entry) : Prop where
  loans : loans e.action e.payout = 0
  receipts : borrowReceipts e.action e.payout = 0
  recoveries : borrowRecoveries e.action e.payout = 0

/-- Entries about others, and entries of no interest to lenders, change nothing. -/
theorem LendHistory.aside (h : LendHistory J id p u) (shape : p.Shape) (later : p.Later p')
    (flags : LendFlags (p.lendPosition u) (p'.lendPosition u)) (quiet : e.Concerns id u → e.LendQuiet) :
    LendHistory (J ++ [e]) id p' u := by
  constructor
  · rw [total_of_quiet fun concerns => (quiet concerns).refunds,
      total_of_quiet fun concerns => (quiet concerns).receipts,
      total_of_quiet fun concerns => (quiet concerns).recoveries]
    exact h.told.later (shape.lend u) later (fun settled => later.stake settled u) flags
  · intro claims
    rcases claimed_snoc.1 claims with before | ⟨concerns, now⟩
    · exact flags.claimed.trans (h.claimed before)
    · exact absurd now (quiet concerns).claim

theorem BorrowHistory.aside (h : BorrowHistory J id p u) (shape : p.Shape) (later : p.Later p')
    (flags : BorrowFlags (p.borrowPosition u) (p'.borrowPosition u)) (quiet : e.Concerns id u → e.BorrowQuiet) :
    BorrowHistory (J ++ [e]) id p' u := by
  unfold BorrowHistory
  rw [total_of_quiet fun concerns => (quiet concerns).loans,
    total_of_quiet fun concerns => (quiet concerns).receipts,
    total_of_quiet fun concerns => (quiet concerns).recoveries]
  exact BorrowTold.later h (shape.borrow u) later (fun settled => later.pledge settled u) flags

theorem LendHistory.write {user : Address} {q : LendPosition} (h : ∀ u, LendHistory J id p u) (shape : p.Shape)
    (later : p.Later (p.setLending user q)) (concerns : e.Concerns id user)
    (told : LendTold (p.setLending user q) q (total J id user refunds + refunds e.action e.payout)
      (total J id user lendReceipts + lendReceipts e.action e.payout)
      (total J id user lendRecoveries + lendRecoveries e.action e.payout))
    (claimed : Claimed J id user ∨ e.action = .claimLend → q.claimed = true) (u : Address) :
    LendHistory (J ++ [e]) id (p.setLending user q) u := by
  have positions := Pool.lendPosition_setLending p user q
  by_cases here : u = user
  · subst here
    constructor
    · rw [positions, put_self, total_of_concerns concerns, total_of_concerns concerns, total_of_concerns concerns]
      exact told
    · rw [positions, put_self, claimed_snoc]
      rintro (before | ⟨_, now⟩)
      · exact claimed (.inl before)
      · exact claimed (.inr now)
  · refine (h u).aside shape later ?_ ?_
    · rw [positions, put_of_ne _ _ _ here]
      exact ⟨rfl, rfl, rfl⟩
    · intro other
      exact absurd (other.2.symm.trans concerns.2) here

theorem BorrowHistory.write {user : Address} {q : BorrowPosition} (h : ∀ u, BorrowHistory J id p u) (shape : p.Shape)
    (later : p.Later (p.setBorrowing user q)) (concerns : e.Concerns id user)
    (told : BorrowTold (p.setBorrowing user q) q (total J id user loans + loans e.action e.payout)
      (total J id user borrowReceipts + borrowReceipts e.action e.payout)
      (total J id user borrowRecoveries + borrowRecoveries e.action e.payout)) (u : Address) :
    BorrowHistory (J ++ [e]) id (p.setBorrowing user q) u := by
  have positions := Pool.borrowPosition_setBorrowing p user q
  by_cases here : u = user
  · subst here
    unfold BorrowHistory
    rw [positions, put_self, total_of_concerns concerns, total_of_concerns concerns, total_of_concerns concerns]
    exact told
  · refine (h u).aside shape later ?_ ?_
    · rw [positions, put_of_ne _ _ _ here]
      exact ⟨rfl, rfl⟩
    · intro other
      exact absurd (other.2.symm.trans concerns.2) here

/-! ### What an action adds to the journal -/

/-- The phase in which a pool has to end to accept an action. -/
def ending : Pool.Action → Option Phase
  | .recoverLend | .recoverBorrow => some .liquidated
  | .withdrawLend | .withdrawBorrow => some .finished
  | _ => none

structure Chronicle (J : List Entry) (id : Nat) (p : Pool) : Prop where
  lend : ∀ u, LendHistory J id p u
  borrow : ∀ u, BorrowHistory J id p u
  ended : ∀ e ∈ J, e.id = id → ∀ phase, ending e.action = some phase → p.phase = phase

def entryOf (w : World) (id : Nat) (action : Pool.Action) (t : Transition) : Entry :=
  ⟨id, action, w.released t.pool.toTerms t.payout⟩

theorem act_history (h : Chronicle J id p) (shape : p.Shape) (accepted : p.act s action = .ok t) (w : World) :
    (∀ u, LendHistory (J ++ [w.entryOf id action t]) id t.pool u) ∧
      ∀ u, BorrowHistory (J ++ [w.entryOf id action t]) id t.pool u := by
  have later := Pool.act_later accepted
  have shape' := Pool.act_shape shape accepted
  -- Nothing is told of a position while its pool is matching, so whatever is written then leaves the flags alone.
  have early (matching : p.phase = .matching) (matching' : t.pool.phase = .matching)
      (lendQuiet : (w.entryOf id action t).LendQuiet) (borrowQuiet : (w.entryOf id action t).BorrowQuiet) :
      (∀ u, LendHistory (J ++ [w.entryOf id action t]) id t.pool u) ∧
        ∀ u, BorrowHistory (J ++ [w.entryOf id action t]) id t.pool u := by
    constructor
    · intro u
      have flags := LendFlags.of_fresh ((shape.lend u).fresh matching) ((shape'.lend u).fresh matching')
      exact (h.lend u).aside shape later flags fun _ => lendQuiet
    · intro u
      have flags := BorrowFlags.of_fresh ((shape.borrow u).fresh matching) ((shape'.borrow u).fresh matching')
      exact (h.borrow u).aside shape later flags fun _ => borrowQuiet
  have sameLend (same : t.pool.lendPosition = p.lendPosition) (quiet : (w.entryOf id action t).LendQuiet) (u : Address) :
      LendHistory (J ++ [w.entryOf id action t]) id t.pool u := by
    refine (h.lend u).aside shape later ?_ fun _ => quiet
    rw [same]
    exact ⟨rfl, rfl, rfl⟩
  have sameBorrow (same : t.pool.borrowPosition = p.borrowPosition) (quiet : (w.entryOf id action t).BorrowQuiet)
      (u : Address) : BorrowHistory (J ++ [w.entryOf id action t]) id t.pool u := by
    refine (h.borrow u).aside shape later ?_ fun _ => quiet
    rw [same]
    exact ⟨rfl, rfl⟩
  have zero (r : Address) : w.issuable r 0 = 0 := issuable_zero w r
  cases act_effect accepted with
  | depositLend deposit | depositBorrow deposit =>
    exact early deposit.matching deposit.matching ⟨rfl, zero _, rfl, nofun⟩ ⟨rfl, zero _, rfl⟩
  | @cancelLend amount cancel | @refundPart amount cancel =>
    have phase := (unstake_frame p s.caller amount).2.1
    exact early cancel.matching (phase.trans cancel.matching) ⟨rfl, zero _, rfl, nofun⟩ ⟨rfl, zero _, rfl⟩
  | refundRest _ _ _ unrefunded =>
    have told := (h.lend s.caller).told.refund s.caller unrefunded (zero p.lendReceipt)
    refine ⟨LendHistory.write h.lend shape later ⟨rfl, rfl⟩ told ?_, sameBorrow rfl ⟨rfl, zero _, rfl⟩⟩
    rintro (before | now)
    · exact (h.lend s.caller).claimed before
    · cases now
  | claimLend _ _ unclaimed =>
    let stake := (p.lendPosition s.caller).stake
    have minted : w.issuable p.lendReceipt (p.receiptsOf stake) = 0 ∨
        w.issuable p.lendReceipt (p.receiptsOf stake) = p.matchedOf stake := by
      rcases issuable_cases w p.lendReceipt (p.receiptsOf stake) with none | all
      · exact .inl none
      · rw [all]
        exact p.receiptsOf_cases stake
    have told := (h.lend s.caller).told.claim s.caller (p.receiptsOf stake) unclaimed minted
    exact ⟨LendHistory.write h.lend shape later ⟨rfl, rfl⟩ told fun _ => rfl, sameBorrow rfl ⟨rfl, zero _, rfl⟩⟩
  | claimBorrow _ _ unclaimed =>
    let pledge := (p.borrowPosition s.caller).pledge
    have minted : w.issuable p.borrowReceipt (p.pledgeReceiptsOf pledge) = 0 ∨
        w.issuable p.borrowReceipt (p.pledgeReceiptsOf pledge) = pledge := by
      rcases issuable_cases w p.borrowReceipt (p.pledgeReceiptsOf pledge) with none | all
      · exact .inl none
      · rw [all]
        exact p.pledgeReceiptsOf_cases pledge
    have told := (h.borrow s.caller).claim s.caller (p.drawnOf pledge) (p.pledgeReceiptsOf pledge) unclaimed minted
    exact ⟨sameLend rfl ⟨rfl, zero _, rfl, nofun⟩, BorrowHistory.write h.borrow shape later ⟨rfl, rfl⟩ told⟩
  | withdrawLend | withdrawBorrow | settle | finish | liquidate =>
    exact ⟨sameLend rfl ⟨rfl, zero _, rfl, nofun⟩, sameBorrow rfl ⟨rfl, zero _, rfl⟩⟩
  | recoverLend _ _ unrecovered =>
    have told := (h.lend s.caller).told.recover s.caller unrecovered (zero p.lendReceipt)
    refine ⟨LendHistory.write h.lend shape later ⟨rfl, rfl⟩ told ?_, sameBorrow rfl ⟨rfl, zero _, rfl⟩⟩
    rintro (before | now)
    · exact (h.lend s.caller).claimed before
    · cases now
  | recoverBorrow _ _ unrecovered =>
    have told := (h.borrow s.caller).recover s.caller unrecovered (zero p.borrowReceipt)
    exact ⟨sameLend rfl ⟨rfl, zero _, rfl, nofun⟩, BorrowHistory.write h.borrow shape later ⟨rfl, rfl⟩ told⟩

end TermLending.World
