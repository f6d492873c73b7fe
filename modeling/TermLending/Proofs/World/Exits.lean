import TermLending.Proofs.Pool.Exits
import TermLending.Proofs.World.Service
import TermLending.Proofs.World.Solvency
import TermLending.Proofs.World.Stock

/-!
# Ways out of a market

A market that is solvent, and whose receipts nobody else creates, carries out whatever its pools accept. So everyone
who is entitled to an exit gets out, and nobody else does.
-/

namespace TermLending.World

variable {self user r owner : Address} {w w' w₁ w₂ : World} {m : Move} {moves : List Move} {kept : Address → Prop}
  {p : Pool} {t : Transition} {T L B : Token} {terms : Terms} {out : Payout} {payments : List Payment} {id n : Nat}
  {action : Pool.Action}

/-! ### Payouts that can be carried out -/

/-- The market may have units of the token of `r` created and destroyed. -/
structure Ready (home r : Address) (T : Token) (w : World) : Prop where
  kind : w.kind r = some .receipt
  issued : (w.receipt r).token = some T
  role : w.mayIssue r T = true
  minter : home ∈ (w.receipt r).minters
  notCoin : T ≠ .native

theorem Ready.of_only (h : Ready self r T w) (only : w.TokensOnly w') : Ready self r T w' := by
  refine ⟨?_, ?_, ?_, ?_, h.notCoin⟩
  · rw [only.kind]
    exact h.kind
  · rw [only.token_eq]
    exact h.issued
  · rw [only.mayIssue]
    exact h.role
  · rw [only.minters_eq]
    exact h.minter

theorem Ready.known (h : Ready self r T w) : w.receiptToken r = .ok T := by
  rw [receiptToken_eq_ok_iff, h.issued]
  exact ⟨h.kind, rfl⟩

theorem Ready.away (h : Ready self r T w) (market : w.kind self = some .market) : r ≠ self := by
  rintro rfl
  have kind := h.kind
  rw [market] at kind
  cases kind

theorem issueReceipts_succeeds (ready : Ready self r T w) (somebody : owner ≠ .zero) (n : Nat) :
    ∃ w' log, w.issueReceipts self r owner n = .ok (w', log) := by
  unfold issueReceipts
  split
  · exact ⟨w, [], rfl⟩
  · next some =>
    rw [ready.kind]
    have positive := Nat.pos_of_ne_zero some
    exact ⟨_, _, mint_eq_ok_iff.2 ⟨T, ready.minter, somebody, positive, ready.issued, ready.role, rfl, rfl⟩⟩

theorem returnReceipts_succeeds (ready : Ready self r T w) (away : r ≠ self) (held : n ≤ w.balance self T)
    (counted : n ≤ (w.receipt r).supply) (owner : Address) :
    ∃ w' log, w.returnReceipts self r owner n = .ok (w', log) := by
  unfold returnReceipts
  split
  · exact ⟨w, [], rfl⟩
  · next some =>
    have positive := Nat.pos_of_ne_zero some
    obtain ⟨w₁, sent⟩ : ∃ w₁, w.transfer self r T n = .ok w₁ :=
      ⟨_, transfer_eq_ok_iff.2 ⟨⟨held, .inl positive⟩, rfl⟩⟩
    obtain ⟨only, receipts⟩ := transfer_only sent
    have ready₁ := ready.of_only only
    have arrived : n ≤ w₁.balance r T := by
      have moved := transfer_balance sent r T
      rw [if_neg fun here => away here.1, if_pos ⟨rfl, rfl⟩] at moved
      omega
    rw [← receipts] at counted
    obtain ⟨w₂, log, burned⟩ : ∃ w₂ log, w₁.burn r self owner n [⟨T, n⟩] = .ok (w₂, log) :=
      ⟨_, _, burn_eq_ok_iff.2 ⟨T, ready₁.minter, positive, ready₁.issued, ready.notCoin, rfl, ready₁.role, arrived,
        counted, rfl, rfl⟩⟩
    exact ⟨w₂, log, bind_eq_ok_iff.2 ⟨T, ready.known, bind_eq_ok_iff.2 ⟨w₁, sent, burned⟩⟩⟩

/-- A payout is carried out if the market holds all that leaves with it, and enough receipts are counted. -/
theorem deliver_succeeds (lend : Ready self terms.lendReceipt L w) (borrow : Ready self terms.borrowReceipt B w)
    (lendAway : terms.lendReceipt ≠ self) (borrowAway : terms.borrowReceipt ≠ self)
    (apart : terms.lendReceipt ≠ terms.borrowReceipt) (tokens : L ≠ B) (somebody : out.recipient ≠ .zero)
    (lendCounted : out.burnLend ≤ (w.receipt terms.lendReceipt).supply)
    (borrowCounted : out.burnBorrow ≤ (w.receipt terms.borrowReceipt).supply)
    (covered : ∀ T, w.outgoing terms out T ≤ w.balance self T) : ∃ w' log, w.deliver self terms out = .ok (w', log) := by
  have left (T : Token) := covered T
  simp only [outgoing, receiptsIn, lend.issued, borrow.issued, Option.some.injEq] at left
  have lendHeld : out.burnLend ≤ w.balance self L := by
    have all := left L
    rw [if_pos (rfl : L = L)] at all
    omega
  obtain ⟨w₁, log₁, lendBurned⟩ := returnReceipts_succeeds lend lendAway lendHeld lendCounted out.recipient
  have only₁ := returnReceipts_only lendBurned
  have after₁ (T : Token) := returnReceipts_balance lendBurned self T
  simp only [lend.issued, true_and, Option.some.injEq] at after₁
  have borrowHeld : out.burnBorrow ≤ w₁.balance self B := by
    have all := left B
    have same := after₁ B
    rw [if_neg tokens] at same
    rw [if_pos (rfl : B = B)] at all
    omega
  have borrowCounted₁ : out.burnBorrow ≤ (w₁.receipt terms.borrowReceipt).supply := by
    have same := returnReceipts_supply lendBurned terms.borrowReceipt
    rw [if_neg apart.symm] at same
    omega
  obtain ⟨w₂, log₂, borrowBurned⟩ :=
    returnReceipts_succeeds (borrow.of_only only₁) borrowAway borrowHeld borrowCounted₁ out.recipient
  have only₂ := only₁.trans (returnReceipts_only borrowBurned)
  have after₂ (T : Token) := returnReceipts_balance borrowBurned self T
  simp only [(borrow.of_only only₁).issued, true_and, Option.some.injEq] at after₂
  have settleHeld : out.settle ≤ w₂.balance self terms.settleToken := by
    have all := left terms.settleToken
    have one := after₁ terms.settleToken
    have two := after₂ terms.settleToken
    rw [if_pos (rfl : terms.settleToken = terms.settleToken)] at all
    omega
  obtain ⟨w₃, settled⟩ : ∃ w₃, w₂.send self out.recipient terms.settleToken out.settle = .ok w₃ :=
    send_succeeds settleHeld
  have only₃ := only₂.trans (send_only settled).1
  obtain ⟨w₄, log₄, lendMinted⟩ := issueReceipts_succeeds (lend.of_only only₃) somebody out.mintLend
  have only₄ := only₃.trans (issueReceipts_only lendMinted)
  obtain ⟨w₅, log₅, borrowMinted⟩ := issueReceipts_succeeds (borrow.of_only only₄) somebody out.mintBorrow
  have pledgeHeld : out.pledge ≤ w₅.balance self terms.pledgeToken := by
    have all := left terms.pledgeToken
    have one := after₁ terms.pledgeToken
    have two := after₂ terms.pledgeToken
    have three := send_balance settled self terms.pledgeToken
    have four := issueReceipts_balance lendMinted self terms.pledgeToken
    have five := issueReceipts_balance borrowMinted self terms.pledgeToken
    rw [if_pos (rfl : terms.pledgeToken = terms.pledgeToken)] at all
    simp only [true_and] at three
    omega
  obtain ⟨w₆, pledged⟩ : ∃ w₆, w₅.send self out.recipient terms.pledgeToken out.pledge = .ok w₆ :=
    send_succeeds pledgeHeld
  refine ⟨w₆, log₁ ++ log₂ ++ log₄ ++ log₅, ?_⟩
  unfold deliver
  simp only [lendBurned, borrowBurned, settled, lendMinted, borrowMinted, pledged, bind, Except.bind, pure, Except.pure]

/-! ### Calls on a pool -/

def onPool (w : World) (home user : Address) (id : Nat) (action : Pool.Action) (payments : List Payment) :
    Except Fault Outcome :=
  w.call ⟨user, home, .act (.market (.onPool id action)), payments⟩

theorem accept_onPool (market : w.kind self = some .market) (fits : id ≤ maxU32) (user : Address)
    (takes : checkPayment payments (.market (.onPool id action)) = .ok ()) :
    w.accept ⟨user, self, payments⟩ (.market (.onPool id action)) = .ok () :=
  (accept_eq_ok_iff rfl).2 ⟨market, takes, List.forall_mem_singleton.2 fits⟩

/-- Past the gate it is up to the pool alone. -/
theorem onPool_eq_of_gate (market : w.kind self = some .market) (fits : id ≤ maxU32)
    (passed : w.gate action.isGated (w.market self).registry user self = .ok ())
    (read : (w.market self).pool? id = some p) (paid : w.transferAll user self payments = .ok w₁)
    (takes : checkPayment payments (.market (.onPool id action)) = .ok ()) :
    w.onPool self user id action payments =
      p.act (w₁.scene self user payments id p) action >>= fun t => w₁.conclude self id t := by
  have only := (transferAll_only paid).1
  have fitting := accept_onPool (only.kind ▸ market) fits user takes
  have gate : w₁.gate action.isGated (w₁.market self).registry user self = .ok () := by
    unfold gate at passed ⊢
    rwa [requireApproved_of_only only, only.market]
  have found : (w₁.market self).pool id = .ok p := by
    rw [Market.pool_eq_ok_iff, only.market]
    exact read
  unfold onPool call
  dsimp only
  rw [paid]
  show (w₁.accept _ _ >>= fun _ => w₁.actOnPool _ id action) = _
  rw [fitting]
  show w₁.actOnPool _ id action = _
  unfold actOnPool
  dsimp only
  rw [gate, found]
  rfl

/-- What needs no approval meets no gate. -/
theorem onPool_eq (market : w.kind self = some .market) (fits : id ≤ maxU32) (ungated : action.isGated = false)
    (read : (w.market self).pool? id = some p) (paid : w.transferAll user self payments = .ok w₁)
    (takes : checkPayment payments (.market (.onPool id action)) = .ok ()) :
    w.onPool self user id action payments =
      p.act (w₁.scene self user payments id p) action >>= fun t => w₁.conclude self id t := by
  apply onPool_eq_of_gate market fits _ read paid takes
  rw [ungated]
  rfl

/-! ### What a pool accepts is granted -/

/-- The tokens of the receipts of a pool are known, and at least the units in hand are counted. -/
structure Counted (p : Pool) (L B : Token) (w : World) : Prop where
  lendIssued : (w.receipt p.lendReceipt).token = some L
  borrowIssued : (w.receipt p.borrowReceipt).token = some B
  lendCounted : w.units L ≤ w.lendUnits p
  borrowCounted : w.units B ≤ w.borrowUnits p

/-- Both receipt contracts of a pool serve the market, and count at least the units in hand. -/
structure Standing (home : Address) (p : Pool) (L B : Token) (w : World) : Prop where
  lend : Ready home p.lendReceipt L w
  borrow : Ready home p.borrowReceipt B w
  tokens : L ≠ B
  lendCounted : w.units L ≤ w.lendUnits p
  borrowCounted : w.units B ≤ w.borrowUnits p

theorem Standing.counted (h : Standing self p L B w) : Counted p L B w :=
  ⟨h.lend.issued, h.borrow.issued, h.lendCounted, h.borrowCounted⟩

/-- Payments leave something behind, or come to nothing. -/
theorem paid_le_units (other : user ≠ self) (paid : w.transferAll user self payments = .ok w₁) (T : Token) :
    World.paid payments T ≤ w.units T := by
  have brought := transferAll_balance paid user T
  rw [if_pos rfl, if_neg other] at brought
  have held := balance_le_units w user T
  omega

theorem Counted.burned_le (counted : Counted p L B w) (other : user ≠ self)
    (paid : w.transferAll user self payments = .ok w₁)
    (accepted : p.act (w₁.scene self user payments id p) action = .ok t) :
    t.payout.burnLend ≤ w.lendUnits p ∧ t.payout.burnBorrow ≤ w.borrowUnits p := by
  have only := (transferAll_only paid).1
  have taken (T : Token) := Pool.act_takes (T := T) (w₁.receipt p.lendReceipt).token (w₁.receipt p.borrowReceipt).token
    accepted (fun token => token_of_receiptToken) (fun token => token_of_receiptToken)
  simp only [only.token_eq, counted.lendIssued, counted.borrowIssued, Option.some.injEq] at taken
  constructor
  · have one := taken L
    have all := paid_le_units other paid L
    have enough := counted.lendCounted
    rw [if_pos (rfl : L = L)] at one
    change _ ≤ World.paid payments L at one
    omega
  · have one := taken B
    have all := paid_le_units other paid B
    have enough := counted.borrowCounted
    rw [if_pos (rfl : B = B)] at one
    change _ ≤ World.paid payments B at one
    omega

/-- A solvent market holds what leaves it with a payout. -/
theorem outgoing_covered (circulation : Circulation self kept w) (solvent : Solvent self w)
    (member : p ∈ (w.market self).pools) (counted : Counted p L B w) (other : user ≠ self)
    (paid : w.transferAll user self payments = .ok w₁)
    (accepted : p.act (w₁.scene self user payments id p) action = .ok t) (T : Token) :
    w₁.outgoing p.toTerms t.payout T ≤ w₁.balance self T := by
  obtain ⟨lend, borrow⟩ := counted.burned_le other paid accepted
  have less := act_poolOwes 0 0 circulation member accepted (by omega) (by omega) T
  have debt := (poolOwes_le_owes member T).trans (solvent T)
  have brought := transferAll_balance paid self T
  rw [if_neg other.symm, if_pos rfl, Nat.add_zero] at brought
  have settleLeft : (0 : ℚ) ≤ if T = p.settleToken then (t.pool.settleOwed : ℚ) else 0 := by positivity
  have pledgeLeft : (0 : ℚ) ≤ if T = p.pledgeToken then t.pool.pledgeOwed 0 0 else 0 := by
    split
    · exact t.pool.pledgeOwed_nonneg 0 0
    · exact le_rfl
  have within : (w₁.outgoing p.toTerms t.payout T : ℚ) ≤ (w.balance self T + World.paid payments T : Nat) := by
    push_cast
    linarith
  rw [brought]
  exact Nat.cast_le.1 within

theorem conclude_succeeds (circulation : Circulation self kept w) (solvent : Solvent self w)
    (read : (w.market self).pool? id = some p) (standing : Standing self p L B w) (ungated : action.isGated = false)
    (somebody : user ≠ .zero) (other : user ≠ self) (paid : w.transferAll user self payments = .ok w₁)
    (accepted : p.act (w₁.scene self user payments id p) action = .ok t) : ∃ o, w₁.conclude self id t = .ok o := by
  have market := circulation.market
  have member := Market.mem_of_pool? read
  have terms := (Pool.act_later accepted).terms
  obtain ⟨only, receipts⟩ := transferAll_only paid
  obtain ⟨lendCounted, borrowCounted⟩ := standing.counted.burned_le other paid accepted
  have covered := outgoing_covered circulation solvent member standing.counted other paid accepted
  have lend := standing.lend.of_only only
  have borrow := standing.borrow.of_only only
  have recipient : t.payout.recipient ≠ .zero := by
    rw [Pool.act_recipient ungated accepted]
    exact somebody
  unfold lendUnits at lendCounted
  unfold borrowUnits at borrowCounted
  rw [← receipts] at lendCounted borrowCounted
  obtain ⟨w', log, delivered⟩ :
      ∃ w' log, (w₁.setMarket self ((w₁.market self).setPool id t.pool)).deliver self p.toTerms t.payout =
        .ok (w', log) :=
    deliver_succeeds (L := L) (B := B) ⟨lend.kind, lend.issued, lend.role, lend.minter, lend.notCoin⟩
      ⟨borrow.kind, borrow.issued, borrow.role, borrow.minter, borrow.notCoin⟩ (standing.lend.away market)
      (standing.borrow.away market) (circulation.books.lend_ne_borrow member) standing.tokens recipient lendCounted
      borrowCounted covered
  rw [← terms] at delivered
  exact ⟨_, bind_eq_ok_iff.2 ⟨(w', log), delivered, rfl⟩⟩

/-- Whatever a pool accepts without approval is granted. -/
theorem onPool_decides (circulation : Circulation self kept w) (solvent : Solvent self w)
    (read : (w.market self).pool? id = some p) (standing : Standing self p L B w) (fits : id ≤ maxU32)
    (ungated : action.isGated = false) (somebody : user ≠ .zero) (other : user ≠ self) {entitled : Prop}
    (paid : w.transferAll user self payments = .ok w₁)
    (takes : checkPayment payments (.market (.onPool id action)) = .ok ())
    (decides : Decides (p.act (w₁.scene self user payments id p) action) entitled) :
    Decides (w.onPool self user id action payments) entitled := by
  rw [onPool_eq circulation.market fits ungated read paid takes]
  refine Decides.congr (decides.bind fun t accepted _ => ?_) (and_iff_left trivial)
  obtain ⟨o, concluded⟩ := conclude_succeeds circulation solvent read standing ungated somebody other paid accepted
  exact .of_ok concluded

theorem transferAll_one (self : Address) (h : w.CanPay user T n) : ∃ w₁, w.transferAll user self [⟨T, n⟩] = .ok w₁ := by
  obtain ⟨w₁, sent⟩ : ∃ w₁, w.transfer user self T n = .ok w₁ := ⟨_, transfer_eq_ok_iff.2 ⟨h, rfl⟩⟩
  exact ⟨w₁, bind_eq_ok_iff.2 ⟨w₁, sent, rfl⟩⟩

theorem withdrawLend_decides (circulation : Circulation self kept w) (solvent : Solvent self w)
    (read : (w.market self).pool? id = some p) (standing : Standing self p L B w) (fits : id ≤ maxU32)
    (somebody : user ≠ .zero) (other : user ≠ self) (held : w.CanPay user L n) :
    Decides (w.onPool self user id .withdrawLend [⟨L, n⟩]) (p.phase = .finished ∧ 0 < n) := by
  have member := Market.mem_of_pool? read
  have there := held.1.trans ((balance_le_units w user L).trans standing.lendCounted)
  obtain ⟨w₁, paid⟩ := transferAll_one self held
  have known := (standing.lend.of_only (transferAll_only paid).1).known
  apply onPool_decides circulation solvent read standing fits rfl somebody other paid rfl
  exact Pool.withdrawLend_decides (circulation.books.ledger p member) (circulation.books.shape p member)
    (circulation.backed p member) known standing.lend.notCoin rfl there

theorem withdrawBorrow_decides (circulation : Circulation self kept w) (solvent : Solvent self w)
    (read : (w.market self).pool? id = some p) (standing : Standing self p L B w) (fits : id ≤ maxU32)
    (somebody : user ≠ .zero) (other : user ≠ self) (held : w.CanPay user B n) :
    Decides (w.onPool self user id .withdrawBorrow [⟨B, n⟩]) (p.phase = .finished ∧ 0 < n) := by
  have member := Market.mem_of_pool? read
  have there := held.1.trans ((balance_le_units w user B).trans standing.borrowCounted)
  obtain ⟨w₁, paid⟩ := transferAll_one self held
  have known := (standing.borrow.of_only (transferAll_only paid).1).known
  apply onPool_decides circulation solvent read standing fits rfl somebody other paid rfl
  exact Pool.withdrawBorrow_decides (circulation.books.ledger p member) (circulation.books.shape p member)
    (circulation.backed p member) known standing.borrow.notCoin rfl there

/-! ### Along a run -/

/--
A receipt contract that is there for a market alone: nothing of its token `T` exists at the start, nobody else ever
creates any, and in the end the contract has issued `T` and serves the market.
-/
structure Provided (home r : Address) (T : Token) (w : World) (moves : List Move) : Prop where
  unused : (w.receipt r).supply = 0
  unheld : ∀ a, w.balance a T = 0
  exclusive : w.Throughout (Exclusive home r T) moves
  ready : Ready home r T (w.play moves)

/-- A receipt contract that has issued `T` for a market alone, whether or not it can create any units of it. -/
structure Reserved (home r : Address) (T : Token) (w : World) (moves : List Move) : Prop where
  unused : (w.receipt r).supply = 0
  unheld : ∀ a, w.balance a T = 0
  exclusive : w.Throughout (Exclusive home r T) moves
  issued : ((w.play moves).receipt r).token = some T

theorem Provided.reserved (h : Provided self r T w moves) : Reserved self r T w moves :=
  ⟨h.unused, h.unheld, h.exclusive, h.ready.issued⟩

theorem Reserved.counted (h : Reserved self r T w moves) (launched : Launched self w) (foreign : Foreign self moves) :
    (w.play moves).units T ≤ ((w.play moves).receipt r).supply := by
  have none : w.units T = 0 := Finset.sum_eq_zero fun a _ => h.unheld a
  have start : Stock self r T w := ⟨(launched_market launched).1, none.le.trans (Nat.zero_le _), fun _ => none⟩
  exact (play_stock start foreign h.exclusive).counted

/-- All receipt contracts of a market are reserved for it. -/
def AllReserved (home : Address) (w : World) (moves : List Move) : Prop :=
  ∀ p ∈ ((w.play moves).market home).pools,
    (∃ L, Reserved home p.lendReceipt L w moves) ∧ ∃ B, Reserved home p.borrowReceipt B w moves

theorem solvent_of_reserved (launched : Launched self w) (foreign : Foreign self moves)
    (reserved : AllReserved self w moves) :
    Circulation self (Serves self w moves) (w.play moves) ∧ Solvent self (w.play moves) := by
  apply play_solvent launched foreign
  · intro p member
    obtain ⟨⟨L, lend⟩, B, borrow⟩ := reserved p member
    exact ⟨lend.unused, borrow.unused⟩
  · intro p member
    obtain ⟨⟨L, lend⟩, B, borrow⟩ := reserved p member
    exact ⟨lend.exclusive.mono fun _ exclusive => exclusive.alone, borrow.exclusive.mono fun _ exclusive => exclusive.alone⟩

theorem standing_of_provided (launched : Launched self w) (foreign : Foreign self moves)
    (apart : p.lendReceipt ≠ p.borrowReceipt) (lend : Provided self p.lendReceipt L w moves)
    (borrow : Provided self p.borrowReceipt B w moves) : Standing self p L B (w.play moves) := by
  refine ⟨lend.ready, borrow.ready, ?_, lend.reserved.counted launched foreign, borrow.reserved.counted launched foreign⟩
  rintro rfl
  exact apart (lend.exclusive.finish.sole _ borrow.ready.issued).symm

theorem solvent_of_provided (launched : Launched self w) (foreign : Foreign self moves)
    (provided : ∀ p ∈ ((w.play moves).market self).pools,
      (∃ L, Provided self p.lendReceipt L w moves) ∧ ∃ B, Provided self p.borrowReceipt B w moves) :
    Circulation self (Serves self w moves) (w.play moves) ∧ Solvent self (w.play moves) := by
  apply solvent_of_reserved launched foreign
  intro p member
  obtain ⟨⟨L, lend⟩, B, borrow⟩ := provided p member
  exact ⟨⟨L, lend.reserved⟩, B, borrow.reserved⟩

/--
An exit is granted to those who are entitled to it, and everyone else is told why not. A user is any account but the
market, which makes no calls of its own, and the zero address, which nobody holds.
-/
theorem exits_are_decided (launched : Launched self w) (foreign : Foreign self moves)
    (provided : ∀ p ∈ ((w.play moves).market self).pools,
      (∃ L, Provided self p.lendReceipt L w moves) ∧ ∃ B, Provided self p.borrowReceipt B w moves)
    (read : ((w.play moves).market self).pool? id = some p) (fits : id ≤ maxU32) (somebody : user ≠ .zero)
    (other : user ≠ self) :
    let w' := w.play moves
    let lent := p.lendPosition user
    let pledged := p.borrowPosition user
    (∀ n, Decides (w'.onPool self user id (.cancelLend n) [])
        (p.phase = .matching ∧ w'.now < p.settleTime ∧ 0 < n ∧ n ≤ lent.stake)) ∧
      Decides (w'.onPool self user id (.refundLend none) [])
        (p.phase.isSettled = true ∧ 0 < lent.stake ∧ lent.claimed = false ∧ lent.refunded = false ∧
          0 < p.unmatchedOf lent.stake) ∧
      Decides (w'.onPool self user id .claimLend [])
        (p.phase.isSettled = true ∧ 0 < lent.stake ∧ lent.claimed = false) ∧
      Decides (w'.onPool self user id .claimBorrow [])
        (p.phase.isSettled = true ∧ 0 < pledged.pledge ∧ pledged.claimed = false) ∧
      (∀ T n, (w'.receipt p.lendReceipt).token = some T → w'.CanPay user T n →
        Decides (w'.onPool self user id .withdrawLend [⟨T, n⟩]) (p.phase = .finished ∧ 0 < n)) ∧
      (∀ T n, (w'.receipt p.borrowReceipt).token = some T → w'.CanPay user T n →
        Decides (w'.onPool self user id .withdrawBorrow [⟨T, n⟩]) (p.phase = .finished ∧ 0 < n)) ∧
      Decides (w'.onPool self user id .recoverLend [])
        (p.phase = .liquidated ∧ 0 < lent.stake ∧ lent.recovered = false) ∧
      Decides (w'.onPool self user id .recoverBorrow [])
        (p.phase = .liquidated ∧ 0 < pledged.pledge ∧ pledged.recovered = false) := by
  intro w' lent pledged
  have member := Market.mem_of_pool? read
  obtain ⟨circulation, solvent⟩ := solvent_of_provided launched foreign provided
  have ledger := circulation.books.ledger p member
  have shape := circulation.books.shape p member
  have apart := circulation.books.lend_ne_borrow member
  obtain ⟨⟨L, lend⟩, B, borrow⟩ := provided p member
  have standing := standing_of_provided launched foreign apart lend borrow
  have unpaid {action : Pool.Action} {entitled : Prop} (ungated : action.isGated = false)
      (decides : Decides (p.act (w'.scene self user [] id p) action) entitled) :
      Decides (w'.onPool self user id action []) entitled :=
    onPool_decides circulation solvent read standing fits ungated somebody other rfl (checkPayment_nil _) decides
  refine ⟨?_, ?_, ?_, ?_, ?_, ?_, ?_, ?_⟩
  · intro n
    exact unpaid rfl (Pool.cancelLend_decides ledger)
  · exact unpaid rfl (Pool.refundUnmatched_decides shape)
  · exact unpaid rfl (Pool.claimLend_decides shape)
  · exact unpaid rfl (Pool.claimBorrow_decides ledger)
  · intro T n issued held
    cases issued.symm.trans lend.ready.issued
    exact withdrawLend_decides circulation solvent read standing fits somebody other held
  · intro T n issued held
    cases issued.symm.trans borrow.ready.issued
    exact withdrawBorrow_decides circulation solvent read standing fits somebody other held
  · exact unpaid rfl (Pool.recoverLend_decides ledger shape)
  · exact unpaid rfl (Pool.recoverBorrow_decides ledger)

/-! ### The way out of the town -/

theorem town_issued (issued : (marketTown.receipt r).token = some T) :
    r = someone 3 ∧ T = coin 0x33 ∨ r = someone 4 ∧ T = coin 0x34 := by
  have token : (marketTown.receipt r).token =
      if r = someone 3 then some (coin 0x33) else if r = someone 4 then some (coin 0x34) else none := rfl
  rw [token] at issued
  split at issued
  · next here => exact .inl ⟨here, (Option.some.inj issued).symm⟩
  · split at issued
    · next here => exact .inr ⟨here, (Option.some.inj issued).symm⟩
    · cases issued

theorem town_exclusive (issued : (marketTown.receipt r).token = some T) : Exclusive (someone 5) r T marketTown := by
  refine ⟨?_, ?_, ?_⟩
  · rcases town_issued issued with ⟨rfl, rfl⟩ | ⟨rfl, rfl⟩
    · decide
    · decide
  · intro T' other
    rw [issued] at other
    exact (Option.some.inj other).symm
  · intro r' other
    rcases town_issued issued with ⟨rfl, rfl⟩ | ⟨rfl, rfl⟩
    · rcases town_issued other with ⟨there, _⟩ | ⟨_, same⟩
      · exact there
      · exact absurd same (by decide)
    · rcases town_issued other with ⟨_, same⟩ | ⟨there, _⟩
      · exact absurd same (by decide)
      · exact there

theorem town_unheld (issued : (marketTown.receipt r).token = some T) (a : Address) : marketTown.balance a T = 0 := by
  have balance : marketTown.balance a T =
      if a = someone 6 ∧ T = coin 0x53 then 100 else if a = someone 7 ∧ T = coin 0x50 then 300 else 0 := rfl
  have different : T ≠ coin 0x53 ∧ T ≠ coin 0x50 := by
    rcases town_issued issued with ⟨_, rfl⟩ | ⟨_, rfl⟩
    · decide
    · decide
  rw [balance, if_neg fun here => different.1 here.2, if_neg fun here => different.2 here.2]

theorem town_provided (issued : (marketTown.receipt r).token = some T) :
    Provided (someone 5) r T marketTown townLoan := by
  have spared : ∀ m ∈ townLoan, sparesReceipts m = true := by decide
  refine ⟨?_, town_unheld issued, (town_exclusive issued).throughout spared, ?_⟩
  · rcases town_issued issued with ⟨rfl, _⟩ | ⟨rfl, _⟩
    · rfl
    · rfl
  · rcases town_issued issued with ⟨rfl, rfl⟩ | ⟨rfl, rfl⟩
    · exact ⟨by decide +kernel, by decide +kernel, by decide +kernel, by decide +kernel, by decide⟩
    · exact ⟨by decide +kernel, by decide +kernel, by decide +kernel, by decide +kernel, by decide⟩

/-- The lender of the town can redeem the rest of the receipts. -/
theorem town_lets_out :
    ∃ o, (marketTown.play townLoan).onPool (someone 5) (someone 6) 1 .withdrawLend [⟨coin 0x33, 30⟩] = .ok o := by
  have bound : ∀ p ∈ ((marketTown.play townLoan).market (someone 5)).pools,
      p.lendReceipt = someone 3 ∧ p.borrowReceipt = someone 4 := by decide +kernel
  have provided : ∀ p ∈ ((marketTown.play townLoan).market (someone 5)).pools,
      (∃ L, Provided (someone 5) p.lendReceipt L marketTown townLoan) ∧
        ∃ B, Provided (someone 5) p.borrowReceipt B marketTown townLoan := by
    intro p member
    obtain ⟨lend, borrow⟩ := bound p member
    rw [lend, borrow]
    exact ⟨⟨coin 0x33, town_provided rfl⟩, coin 0x34, town_provided rfl⟩
  have there : (((marketTown.play townLoan).market (someone 5)).pool? 1).isSome = true := by decide +kernel
  obtain ⟨p, read⟩ := Option.isSome_iff_exists.1 there
  have finished : (((marketTown.play townLoan).market (someone 5)).pool? 1).map (fun p => p.phase) = some .finished := by
    decide +kernel
  rw [read] at finished
  have lend := (bound p (Market.mem_of_pool? read)).1
  obtain ⟨_, _, _, _, withdraws, _⟩ := exits_are_decided marketTown_launched townLoan_foreign provided read (by decide)
    (by decide) (by decide : someone 6 ≠ someone 5)
  have issued : ((marketTown.play townLoan).receipt p.lendReceipt).token = some (coin 0x33) := by
    rw [lend]
    decide +kernel
  exact (withdraws (coin 0x33) 30 issued (by decide +kernel)).granted.2 ⟨Option.some.inj finished, by decide⟩

end TermLending.World
