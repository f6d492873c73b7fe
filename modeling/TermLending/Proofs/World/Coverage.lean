import TermLending.Proofs.World.Kindred

/-!
# Payouts never fall short

Along a run whose receipts are reserved for a market, whatever its pools release is in its account, and whatever is
handed in is counted. So a payout may fail for want of a minter or of a role, but never because something is missing.
-/

namespace TermLending

/-- The computation does not fail for a shortage. -/
abbrev Covered {α : Type} (x : Except Fault α) : Prop := Avoids (fun fault => fault.isShortage = true) x

namespace World

variable {self r owner minter user : Address} {w w' w₁ : World} {m : Move} {moves : List Move} {kept : Address → Prop}
  {p : Pool} {t : Transition} {T L B : Token} {terms : Terms} {out : Payout} {payments attached : List Payment}
  {id n : Nat} {action : Pool.Action} {e : Errand}

/-! ### One payout -/

theorem receiptToken_covered (w : World) (r : Address) : Covered (w.receiptToken r) := by
  have contacted : Covered (w.contact r .receipt) := by
    unfold contact
    split
    · exact .error (by decide)
    · exact .demand (by decide)
  exact contacted.bind fun _ _ => .ok _

theorem issued_covered (r : Receipt) : Covered r.issued := by
  unfold Receipt.issued
  split
  · exact .ok _
  · exact .error (by decide)

theorem issueReceipts_covered (w : World) (self r owner : Address) (n : Nat) :
    Covered (w.issueReceipts self r owner n) := by
  have minted : Covered (w.mint r self owner n) := by
    refine Avoids.bind ?_ fun _ _ => (Avoids.demand (by decide)).bind fun _ _ => .ok _
    refine (Avoids.demand (by decide)).bind fun _ _ => ?_
    refine (Avoids.demand (by decide)).bind fun _ _ => ?_
    refine (Avoids.demand (by decide)).bind fun _ _ => ?_
    exact (issued_covered _).bind fun _ _ => .ok _
  unfold issueReceipts
  split
  · exact .ok _
  · split
    · exact .ok _
    · exact minted
    · exact .error (by decide)

theorem burn_covered (issued : (w.receipt r).token = some T) (arrived : n ≤ w.balance r T)
    (counted : n ≤ (w.receipt r).supply) (minter owner : Address) (attached : List Payment) :
    Covered (w.burn r minter owner n attached) := by
  have sole : Covered (soleToken attached) := by
    unfold soleToken
    split
    · split
      · exact .error (by decide)
      · exact .ok _
    · exact .error (by decide)
  have redeemed : Covered ((w.receipt r).redeem minter n (soleToken attached)) := by
    refine (Avoids.demand (by decide)).bind fun _ _ => ?_
    refine (Avoids.demand (by decide)).bind fun _ _ => ?_
    refine (issued_covered _).bind fun _ _ => sole.bind fun _ _ => ?_
    refine (Avoids.demand (by decide)).bind fun _ _ => ?_
    exact (Avoids.demand (by decide)).bind fun _ _ => .ok _
  refine redeemed.bind fun token asked => (Avoids.demand (by decide)).bind fun _ _ => ?_
  obtain ⟨_, positive, known, _⟩ := Receipt.redeem_eq_ok_iff.1 asked
  rw [issued] at known
  cases known
  have taken : w.debit r T n = .ok (w.setBalance r T (w.balance r T - n)) :=
    debit_eq_ok_iff.2 ⟨⟨arrived, .inl positive⟩, rfl⟩
  rw [taken]
  exact (Avoids.of_ok (uncount_of_le counted)).bind fun _ _ => .ok _

theorem returnReceipts_covered (issued : n = 0 ∨ (w.receipt r).token = some T) (held : n ≤ w.balance self T)
    (counted : n ≤ (w.receipt r).supply) (owner : Address) : Covered (w.returnReceipts self r owner n) := by
  unfold returnReceipts
  split
  · exact .ok _
  · next some =>
    have issued := issued.resolve_left some
    refine (receiptToken_covered w r).bind fun token read => ?_
    rw [token_of_receiptToken read issued]
    have positive := Nat.pos_of_ne_zero some
    refine Avoids.bind (.of_ok (transfer_eq_ok_iff.2 ⟨⟨held, .inl positive⟩, rfl⟩)) fun w₁ sent => ?_
    have moved := transfer_balance sent r T
    rw [if_pos (⟨rfl, rfl⟩ : r = r ∧ T = T)] at moved
    obtain ⟨_, receipts⟩ := transfer_only sent
    apply burn_covered (T := T)
    · rw [receipts]
      exact issued
    · split at moved
      · next here =>
        rw [here.1] at moved ⊢
        omega
      · omega
    · rw [receipts]
      exact counted

/-- A payout has no shortage if the market holds all that leaves with it, and enough receipts are counted. -/
theorem deliver_covered (lend : out.burnLend = 0 ∨ (w.receipt terms.lendReceipt).token = some L)
    (borrow : out.burnBorrow = 0 ∨ (w.receipt terms.borrowReceipt).token = some B)
    (apart : terms.lendReceipt ≠ terms.borrowReceipt)
    (lendCounted : out.burnLend ≤ (w.receipt terms.lendReceipt).supply)
    (borrowCounted : out.burnBorrow ≤ (w.receipt terms.borrowReceipt).supply)
    (covered : ∀ T, w.outgoing terms out T ≤ w.balance self T) : Covered (w.deliver self terms out) := by
  have left (T : Token) := covered T
  simp only [outgoing] at left
  have lendHeld : out.burnLend ≤ w.balance self L := by
    rcases lend with none | issued
    · omega
    · have all := left L
      have part : w.receiptsIn terms.lendReceipt out.burnLend L = out.burnLend := if_pos issued
      omega
  refine (returnReceipts_covered lend lendHeld lendCounted _).bind ?_
  rintro ⟨w₁, log₁⟩ lendBurned
  have only₁ := returnReceipts_only lendBurned
  have after₁ (T : Token) : w₁.balance self T + w.receiptsIn terms.lendReceipt out.burnLend T = w.balance self T := by
    have moved := returnReceipts_balance lendBurned self T
    simpa only [receiptsIn, true_and] using moved
  have counted₁ := returnReceipts_supply lendBurned terms.borrowReceipt
  rw [if_neg apart.symm] at counted₁
  rw [← only₁.token_eq] at borrow
  have borrowHeld : out.burnBorrow ≤ w₁.balance self B := by
    rcases borrow with none | issued
    · omega
    · have all := left B
      have one := after₁ B
      rw [only₁.token_eq] at issued
      have part : w.receiptsIn terms.borrowReceipt out.burnBorrow B = out.burnBorrow := if_pos issued
      omega
  refine (returnReceipts_covered borrow borrowHeld (by omega) _).bind ?_
  rintro ⟨w₂, log₂⟩ borrowBurned
  have after₂ (T : Token) :
      w₂.balance self T + w.receiptsIn terms.borrowReceipt out.burnBorrow T = w₁.balance self T := by
    have moved := returnReceipts_balance borrowBurned self T
    simpa only [receiptsIn, only₁.token_eq, true_and] using moved
  have settleHeld : out.settle ≤ w₂.balance self terms.settleToken := by
    have all := left terms.settleToken
    have one := after₁ terms.settleToken
    have two := after₂ terms.settleToken
    rw [if_pos (rfl : terms.settleToken = terms.settleToken)] at all
    omega
  obtain ⟨w₃, settled⟩ : ∃ w₃, w₂.send self out.recipient terms.settleToken out.settle = .ok w₃ :=
    send_succeeds settleHeld
  refine (Avoids.of_ok settled).bind fun w₃ settled => ?_
  refine (issueReceipts_covered _ _ _ _ _).bind ?_
  rintro ⟨w₄, log₄⟩ lendMinted
  refine (issueReceipts_covered _ _ _ _ _).bind ?_
  rintro ⟨w₅, log₅⟩ borrowMinted
  have pledgeHeld : out.pledge ≤ w₅.balance self terms.pledgeToken := by
    have all := left terms.pledgeToken
    have one := after₁ terms.pledgeToken
    have two := after₂ terms.pledgeToken
    have three := send_balance settled self terms.pledgeToken
    have four := issueReceipts_balance lendMinted self terms.pledgeToken
    have five := issueReceipts_balance borrowMinted self terms.pledgeToken
    rw [if_pos (rfl : terms.pledgeToken = terms.pledgeToken)] at all
    simp only [true_and] at three
    omega
  obtain ⟨w₆, pledged⟩ : ∃ w₆, w₅.send self out.recipient terms.pledgeToken out.pledge = .ok w₆ :=
    send_succeeds pledgeHeld
  exact (Avoids.of_ok pledged).bind fun _ _ => .ok _

/-! ### Whatever a pool accepts -/

/-- What a market has at hand when it is called, wherever its run has led. -/
structure Orderly (home : Address) (w : World) : Prop where
  circulation : ∃ kept, Circulation home kept w
  solvent : Solvent home w
  counted : ∀ p ∈ (w.market home).pools, ∃ L B, Counted p L B w

theorem Orderly.conclude (orderly : Orderly self w) (other : e.caller ≠ self)
    (paid : w.transferAll e.caller self e.payments = .ok w₁) (made : w.transitionOf self e = .ok t) :
    Covered (w₁.conclude self e.id t) := by
  rw [transitionOf_of_paid paid] at made
  obtain ⟨p, read, accepted⟩ := bind_eq_ok_iff.1 made
  obtain ⟨kept, circulation⟩ := orderly.circulation
  have member := Market.mem_of_pool? (Market.pool_eq_ok_iff.1 read)
  obtain ⟨L, B, counted⟩ := orderly.counted p member
  obtain ⟨only, receipts⟩ := transferAll_only paid
  have terms := (Pool.act_later accepted).terms
  rw [← scene_of_only only] at accepted
  obtain ⟨lend, borrow⟩ := counted.burned_le other paid accepted
  have covered := outgoing_covered circulation orderly.solvent member counted other paid accepted
  unfold lendUnits at lend
  unfold borrowUnits at borrow
  rw [← receipts] at lend borrow
  have delivered : Covered
      ((w₁.setMarket self ((w₁.market self).setPool e.id t.pool)).deliver self p.toTerms t.payout) := by
    have lendIssued := (only.token_eq p.lendReceipt).trans counted.lendIssued
    have borrowIssued := (only.token_eq p.borrowReceipt).trans counted.borrowIssued
    have apart := circulation.books.lend_ne_borrow member
    exact deliver_covered (w := w₁.setMarket self _) (.inr lendIssued) (.inr borrowIssued) apart lend borrow covered
  unfold World.conclude
  rw [terms]
  exact delivered.bind fun _ _ => .ok _

/-! ### Along a run -/

theorem orderly_of_reserved (launched : Launched self w) (foreign : Foreign self moves)
    (reserved : AllReserved self w moves) : Orderly self (w.play moves) := by
  obtain ⟨circulation, solvent⟩ := solvent_of_reserved launched foreign reserved
  refine ⟨⟨_, circulation⟩, solvent, ?_⟩
  intro p member
  obtain ⟨⟨L, lend⟩, B, borrow⟩ := reserved p member
  exact ⟨L, B, lend.issued, borrow.issued, lend.counted launched foreign, borrow.counted launched foreign⟩

theorem Throughout.concat {Q : World → Prop} (h : w.Throughout Q moves) (last : Q (w.play (moves ++ [m]))) :
    w.Throughout Q (moves ++ [m]) := by
  induction moves generalizing w with
  | nil => exact ⟨h, last⟩
  | cons first rest ih => exact ⟨h.1, ih h.2 last⟩

theorem Reserved.of_spared (unused : (w.receipt r).supply = 0) (unheld : ∀ a, w.balance a T = 0)
    (exclusive : Exclusive self r T w) (issued : (w.receipt r).token = some T)
    (spared : ∀ m ∈ moves, sparesReceipts m = true) : Reserved self r T w moves := by
  refine ⟨unused, unheld, exclusive.throughout spared, ?_⟩
  rw [(play_sameIssuers spared r).1]
  exact issued

theorem Reserved.concat (h : Reserved self r T w moves) (spares : sparesReceipts m = true) :
    Reserved self r T w (moves ++ [m]) := by
  have same : SameIssuers (w.play moves) (w.play (moves ++ [m])) := by
    rw [play_append]
    exact after_sameIssuers spares
  refine ⟨h.unused, h.unheld, h.exclusive.concat (h.exclusive.finish.of_sameIssuers same), ?_⟩
  rw [(same r).1]
  exact h.issued

/-- The receipt contracts of the town are reserved for its market. -/
theorem town_reserved (spared : ∀ m ∈ moves, sparesReceipts m = true)
    (bound : ∀ p ∈ ((marketTown.play moves).market (someone 5)).pools,
      p.lendReceipt = someone 3 ∧ p.borrowReceipt = someone 4) : AllReserved (someone 5) marketTown moves := by
  have reserved {r : Address} {T : Token} (issued : (marketTown.receipt r).token = some T) :
      Reserved (someone 5) r T marketTown moves :=
    .of_spared rfl (town_unheld issued) (town_exclusive issued) issued spared
  intro p member
  obtain ⟨lend, borrow⟩ := bound p member
  rw [lend, borrow]
  exact ⟨⟨coin 0x33, reserved rfl⟩, coin 0x34, reserved rfl⟩

/-- A call on a pool leaves all pools with their terms. -/
theorem terms_of_after_move {p' : Pool} (member : p' ∈ ((w.after (e.move self)).market self).pools) :
    ∃ p ∈ (w.market self).pools, p'.toTerms = p.toTerms := by
  obtain ⟨o, served, after⟩ | ⟨_, after⟩ := after_move w self e
  · obtain ⟨p, t, w₁, served⟩ := served_of_serve served
    rw [after, served.pools] at member
    rcases List.mem_or_eq_of_mem_set member with old | rfl
    · exact ⟨p', old, rfl⟩
    · exact ⟨p, Market.mem_of_pool? served.read, (Pool.act_later served.accepted).terms⟩
  · rw [after] at member
    exact ⟨p', member, rfl⟩

theorem AllReserved.concat (h : AllReserved self w moves) (e : Errand) :
    AllReserved self w (moves ++ [e.move self]) := by
  intro p' member
  have after : w.play (moves ++ [e.move self]) = (w.play moves).after (e.move self) := play_append w moves _
  rw [after] at member
  obtain ⟨p, old, terms⟩ := terms_of_after_move member
  obtain ⟨⟨L, lend⟩, B, borrow⟩ := h p old
  have lendSame : p'.lendReceipt = p.lendReceipt := congrArg Terms.lendReceipt terms
  have borrowSame : p'.borrowReceipt = p.borrowReceipt := congrArg Terms.borrowReceipt terms
  rw [lendSame, borrowSame]
  exact ⟨⟨L, lend.concat rfl⟩, B, borrow.concat rfl⟩

/-- The run of a market whose receipts are reserved for it may lead here. -/
def Reached (home : Address) (w : World) : Prop :=
  ∃ start moves, Launched home start ∧ Foreign home moves ∧ AllReserved home start moves ∧ w = start.play moves

theorem Reached.orderly (h : Reached self w) : Orderly self w := by
  obtain ⟨start, moves, launched, foreign, reserved, rfl⟩ := h
  exact orderly_of_reserved launched foreign reserved

theorem Reached.after (h : Reached self w) (other : e.caller ≠ self) : Reached self (w.after (e.move self)) := by
  obtain ⟨start, moves, launched, foreign, reserved, rfl⟩ := h
  refine ⟨start, moves ++ [e.move self], launched, ?_, reserved.concat e, (play_append start moves [e.move self]).symm⟩
  intro m member
  rcases List.mem_append.1 member with old | new
  · exact foreign m old
  · rw [List.mem_singleton.1 new]
    exact fun here => other (Option.some.inj here)

end World

end TermLending
