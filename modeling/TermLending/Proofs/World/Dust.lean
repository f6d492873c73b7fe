import TermLending.Proofs.Pool.Dust
import TermLending.Proofs.World.Redemption

/-!
# Only dust is stranded

No action pays out what rounding leaves behind, so it stays with the market. How much that can be follows from the
number of users and of redemptions. The deposits of a pool are read off the moves of a run, and what it paid off the
journal.
-/

namespace TermLending.World

open Finset Pool

variable {self : Address} {w w' : World} {m : Move} {moves : List Move} {J : List Entry} {e : Entry} {id n a b : Nat}
  {p : Pool} {s : Scene} {t : Transition} {action : Pool.Action} {amount burned paid : Pool.Action → Payout → Nat}

/-! ### What a pool took in -/

def Errand.deposit (x : Errand) : Nat := if x.action = .depositLend then (x.payments.map Payment.amount).sum else 0

/-- What a move brings to the lend side of the pool numbered `id`, if it succeeds. -/
def deposit (home : Address) (id : Nat) (w : World) (m : Move) : Nat :=
  match errand? home m, w.entry? home m with
  | some x, some e => if e.id = id then x.deposit else 0
  | _, _ => 0

def deposits (home : Address) (id : Nat) (w : World) : List Move → Nat
  | [] => 0
  | m :: rest => w.deposit home id m + deposits home id (w.after m) rest

theorem deposit_of_other (other : ∀ e, w.entry? self m = some e → e.id ≠ id) : w.deposit self id m = 0 := by
  unfold deposit
  split
  · next entry => exact if_neg (other _ entry)
  · rfl

theorem deposit_of_entry {x : Errand} (asked : errand? self m = some x) (entry : w.entry? self m = some e) :
    w.deposit self id m = if e.id = id then x.deposit else 0 := by
  unfold deposit
  rw [asked, entry]

theorem lendDeposit_scene (x : Errand) (p : Pool) :
    lendDeposit (w.scene self x.caller x.payments x.id p) x.action = x.deposit := by
  unfold lendDeposit Errand.deposit
  cases x.action <;> rfl

/-! ### What a pool paid -/

def lendPayouts : Pool.Action → Payout → Nat
  | .withdrawLend, out => out.pledge
  | _, _ => 0

def borrowPayouts : Pool.Action → Payout → Nat
  | .withdrawBorrow, out => out.pledge
  | _, _ => 0

/-- What all users have been paid. -/
def grandTotal (J : List Entry) (id : Nat) (amount : Pool.Action → Payout → Nat) : Nat :=
  (J.map fun e => if e.id = id then amount e.action e.payout else 0).sum

def times (J : List Entry) (id : Nat) (action : Pool.Action) : Nat := J.countP fun e => e.id = id ∧ e.action = action

theorem grandTotal_snoc (J : List Entry) (e : Entry) (id : Nat) (amount : Pool.Action → Payout → Nat) :
    grandTotal (J ++ [e]) id amount = grandTotal J id amount + if e.id = id then amount e.action e.payout else 0 := by
  simp [grandTotal]

theorem times_snoc (J : List Entry) (e : Entry) (id : Nat) (action : Pool.Action) :
    times (J ++ [e]) id action = times J id action + if e.id = id ∧ e.action = action then 1 else 0 := by
  simp [times, List.countP_singleton]

theorem grandTotal_eq_zero (silent : ∀ e ∈ J, e.id ≠ id) : grandTotal J id amount = 0 := by
  unfold grandTotal
  apply List.sum_eq_zero
  intro n member
  obtain ⟨e, recorded, rfl⟩ := List.mem_map.1 member
  exact if_neg (silent e recorded)

/-- Every entry is about one user. -/
theorem sum_total (J : List Entry) (id : Nat) (amount : Pool.Action → Payout → Nat) :
    ∑ u, total J id u amount = grandTotal J id amount := by
  induction J using List.reverseRecOn with
  | nil => exact sum_const_zero
  | append_singleton J e ih =>
    rw [grandTotal_snoc, ← ih]
    by_cases here : e.id = id
    · rw [sum_total_snoc J here, if_pos here]
    · simp only [total_of_other J here, if_neg here, Nat.add_zero]

theorem lendRedemptions_of_ne (other : action ≠ .withdrawLend) (out : Payout) : lendRedemptions action out = 0 := by
  unfold lendRedemptions
  split
  · exact absurd rfl other
  · rfl

theorem borrowRedemptions_of_ne (other : action ≠ .withdrawBorrow) (out : Payout) : borrowRedemptions action out = 0 := by
  unfold borrowRedemptions
  split
  · exact absurd rfl other
  · rfl

/-- Redemptions at `a` for `b` receipts, each rounded down, lose less than one unit each. -/
theorem grandTotal_priced_le (positive : 0 < b) (quiet : ∀ other out, other ≠ action → burned other out = 0)
    (priced : ∀ e ∈ J, e.id = id → e.action = action →
      paid e.action e.payout = burned e.action e.payout * a / b) :
    grandTotal J id burned * a ≤ grandTotal J id paid * b + times J id action * b := by
  induction J using List.reverseRecOn with
  | nil => simp [grandTotal]
  | append_singleton J e ih =>
    have before := ih fun e member => priced e (List.mem_append_left _ member)
    have last := priced e (List.mem_append_right _ (List.mem_singleton_self e))
    rw [grandTotal_snoc, grandTotal_snoc, times_snoc, Nat.add_mul, Nat.add_mul, Nat.add_mul]
    by_cases here : e.id = id
    · by_cases this : e.action = action
      · have lost : burned e.action e.payout * a < paid e.action e.payout * b + b := by
          rw [last here this]
          exact Nat.lt_div_mul_add positive
        rw [if_pos here, if_pos here, if_pos ⟨here, this⟩]
        omega
      · rw [if_pos here, quiet e.action e.payout this]
        omega
    · rw [if_neg here]
      omega

/-! ### One pool -/

/-- All redemptions of one kind were paid at one price. -/
def Priced (J : List Entry) (id : Nat) (action : Pool.Action) (receipts : Payout → Nat) (price : Nat → Nat) : Prop :=
  ∀ e ∈ J, e.id = id → e.action = action → e.payout.pledge = price (receipts e.payout)

/-- There are no redemptions before prices are final. -/
theorem Priced.snoc {receipts : Payout → Nat} {price price' : Nat → Nat} (h : Priced J id action receipts price)
    (chronicle : Chronicle J id p) (ends : ending action = some .finished)
    (same : p.phase = .finished → ∀ n, price' n = price n)
    (last : e.id = id → e.action = action → e.payout.pledge = price' (receipts e.payout)) :
    Priced (J ++ [e]) id action receipts price' := by
  intro e' member here redeemed
  rcases List.mem_append.1 member with before | now
  · rw [same (chronicle.ended e' before here .finished (redeemed ▸ ends))]
    exact h e' before here redeemed
  · cases List.mem_singleton.1 now
    exact last here redeemed

/-- The books of a pool, as an auditor has them who sees what was deposited and what the journal lists. -/
structure Audited (J : List Entry) (id : Nat) (deposited : Nat) (p : Pool) : Prop where
  funded : deposited = p.lendSupply + grandTotal J id cancels
  lend : Priced J id .withdrawLend Payout.burnLend p.lendPayoutOf
  borrow : Priced J id .withdrawBorrow Payout.burnBorrow p.borrowPayoutOf

theorem cancels_released (w : World) (terms : Terms) (action : Pool.Action) (out : Payout) :
    cancels action (w.released terms out) = cancels action out := by
  unfold cancels
  split <;> rfl

theorem Audited.act (h : Audited J id n p) (chronicle : Chronicle J id p) (accepted : p.act s action = .ok t)
    (w : World) : Audited (J ++ [w.entryOf id action t]) id (n + lendDeposit s action) t.pool := by
  have later := act_later accepted
  constructor
  · have supplied := act_lendSupply accepted
    have funded := h.funded
    have here : (w.entryOf id action t).id = id := rfl
    have listed : cancels action (w.entryOf id action t).payout = cancels action t.payout := cancels_released w _ _ _
    rw [grandTotal_snoc, if_pos here, show (w.entryOf id action t).action = action from rfl, listed]
    omega
  · refine h.lend.snoc chronicle rfl later.lendPayoutOf fun _ redeemed => ?_
    cases redeemed
    cases act_effect accepted
    rfl
  · refine h.borrow.snoc chronicle rfl later.borrowPayoutOf fun _ redeemed => ?_
    cases redeemed
    cases act_effect accepted
    rfl

theorem Audited.other (h : Audited J id n p) (chronicle : Chronicle J id p) (other : e.id ≠ id) :
    Audited (J ++ [e]) id n p where
  funded := by
    rw [grandTotal_snoc, if_neg other]
    exact h.funded
  lend := h.lend.snoc chronicle rfl (fun _ _ => rfl) fun here => absurd here other
  borrow := h.borrow.snoc chronicle rfl (fun _ _ => rfl) fun here => absurd here other

theorem Audited.new (silent : ∀ e ∈ J, e.id ≠ id) (terms : Terms) : Audited J id 0 { toTerms := terms } where
  funded := by rw [grandTotal_eq_zero silent]
  lend e member here := absurd here (silent e member)
  borrow e member here := absurd here (silent e member)

/-! ### A pool along a run -/

structure Audits (home : Address) (J : List Entry) (id : Nat) (deposited : Nat) (w : World) : Prop where
  recorded : Recorded home J w
  absent : (w.market home).pool? id = none → deposited = 0
  audited : ∀ p, (w.market home).pool? id = some p → Audited J id deposited p

theorem Audits.of_launched (launched : Launched self w) : Audits self [] id 0 w := by
  refine ⟨.of_launched launched, fun _ => rfl, ?_⟩
  intro p read
  have member := Market.mem_of_pool? read
  rw [(launched_market launched).2.1] at member
  cases member

theorem Audits.turn (h : Audits self J id n w) (turn : Turn self w m w') :
    Audits self (J ++ (w.entry? self m).toList) id (n + w.deposit self id m) w' := by
  have recorded := h.recorded.turn turn
  refine ⟨recorded, ?_, ?_⟩
  · intro absent
    have before : (w.market self).pool? id = none := by
      by_contra there
      obtain ⟨p, read⟩ := Option.ne_none_iff_exists'.1 there
      obtain ⟨p', read', _⟩ := turn.later read
      rw [absent] at read'
      cases read'
    have other (e : Entry) (entry : w.entry? self m = some e) : e.id ≠ id := by
      rintro rfl
      obtain ⟨p, read⟩ := recorded.known e (List.mem_append_right _ (by simp [entry]))
      rw [absent] at read
      cases read
    rw [deposit_of_other other, h.absent before]
  · intro p found
    have quiet (silent : w.entry? self m = none) : w.deposit self id m = 0 := by
      apply deposit_of_other
      rw [silent]
      nofun
    cases turn with
    | acted x q t w₁ other paid read accepted delivered entry asked =>
      rw [market_of_delivered delivered, Market.pool?_setPool read] at found
      rw [deposit_of_entry asked entry, entry]
      split at found
      · next here =>
        cases found
        subst here
        rw [if_pos rfl, ← lendDeposit_scene x q]
        exact (h.audited q read).act (h.recorded.pools x.id q read) accepted w
      · next away =>
        rw [if_neg (Ne.symm away)]
        exact (h.audited p found).other (h.recorded.pools id p found) (Ne.symm away)
    | created caller payments w₁ terms market' i event other paid created after silent =>
      have stored : w'.market self = market' := after ▸ put_self _ _ _
      rw [stored] at found
      rw [quiet silent, silent, Option.toList_none, List.append_nil]
      obtain ⟨_, _, _, _, rfl⟩ := Market.create_eq_ok created
      rcases Market.pool?_append_cases rfl found with old | ⟨free, rfl⟩
      · exact h.audited p old
      · rw [h.absent free]
        apply Audited.new
        rintro e member rfl
        obtain ⟨p, read⟩ := h.recorded.known e member
        rw [read] at free
        cases free
    | aside aside silent =>
      rw [quiet silent, silent, Option.toList_none, List.append_nil]
      exact h.audited p ((Market.pool?_of_pools aside.pools id).symm.trans found)

theorem play_audits (h : Audits self J id n w) (foreign : Foreign self moves) :
    Audits self (J ++ w.journal self moves) id (n + w.deposits self id moves) (w.play moves) := by
  induction moves generalizing w J n with
  | nil =>
    show Audits self (J ++ []) id n w
    rw [List.append_nil]
    exact h
  | cons m rest ih =>
    have one := h.turn (turn_of_move h.recorded.market (foreign m List.mem_cons_self))
    have all := ih one fun m' member => foreign m' (List.mem_cons_of_mem m member)
    rw [List.append_assoc, Nat.add_assoc] at all
    exact all

/-! ### What is left -/

/-- Where all members have had their shares, the totals are those of the shares. -/
theorem grandTotal_of_flags {members : Roster Address} {share : Address → Nat} {flag : Address → Bool}
    (told : ∀ u, total J id u amount = if flag u then share u else 0) (all : ∀ u ∈ members, flag u = true)
    (outside : ∀ u, u ∉ members → share u = 0) : grandTotal J id amount = ∑ u, share u := by
  rw [← sum_total]
  refine sum_congr rfl fun u _ => ?_
  rw [told u]
  by_cases member : u ∈ members
  · rw [if_pos (all u member)]
  · rw [outside u member, ite_self]

theorem deposited_le (audited : Audited J id n p) (chronicle : Chronicle J id p) (ledger : p.Ledger) (shape : p.Shape)
    (claimed : p.AllClaimed) :
    n ≤ grandTotal J id cancels + grandTotal J id refunds + grandTotal J id loans +
      ((p.lenders.size - 1) + (p.borrowers.size - 1)) := by
  have refunded : grandTotal J id refunds = ∑ u, p.unmatchedOf (p.lendPosition u).stake :=
    grandTotal_of_flags (fun u => (chronicle.lend u).told.refunded)
      (fun u member => (shape.lend u).refunded (claimed.1 u member))
      fun u other => by simp [unmatchedOf, ledger.stake_outside u other]
  have drawn : grandTotal J id loans = ∑ u, p.drawnOf (p.borrowPosition u).pledge :=
    grandTotal_of_flags (fun u => (chronicle.borrow u).drawn) claimed.2
      fun u other => by simp [drawnOf, ledger.pledge_outside u other]
  have supply := lendSupply_le ledger shape
  rw [audited.funded, refunded, drawn]
  omega

theorem recovered_le (chronicle : Chronicle J id p) (ledger : p.Ledger) (shape : p.Shape)
    (liquidated : p.phase = .liquidated) (all : p.AllRecovered) :
    p.recoveryBorrow ≤ grandTotal J id borrowRecoveries + (p.borrowers.size - 1) ∧
      p.recoveryLend * p.matchedLend ≤ grandTotal J id lendRecoveries * p.matchedLend +
        p.lenders.size * (p.recoveryLend + p.matchedLend) := by
  have lend : grandTotal J id lendRecoveries = ∑ u, p.lendRecoveryOf (p.lendPosition u).stake :=
    grandTotal_of_flags (fun u => (chronicle.lend u).told.recovered) all.1
      fun u other => by simp [lendRecoveryOf, matchedOf, ledger.stake_outside u other]
  have borrow : grandTotal J id borrowRecoveries = ∑ u, p.borrowRecoveryOf (p.borrowPosition u).pledge :=
    grandTotal_of_flags (fun u => (chronicle.borrow u).recovered) all.2
      fun u other => by simp [borrowRecoveryOf, ledger.pledge_outside u other]
  rw [lend, borrow]
  exact ⟨recoveryBorrow_le ledger shape liquidated, recoveryLend_le ledger shape (shape.amounts.liquidated liquidated).1⟩

theorem lent_le (audited : Audited J id n p) (ledger : p.Ledger) (shape : p.Shape) (intact : p.phase ≠ .liquidated)
    (claimed : p.AllClaimed) (redeemed : p.lendCreated ≤ grandTotal J id lendRedemptions) :
    p.finishLend * p.matchedLend ≤ grandTotal J id lendPayouts * p.matchedLend +
      (p.lenders.size * p.finishLend + times J id .withdrawLend * p.matchedLend) := by
  rcases Nat.eq_zero_or_pos p.matchedLend with none | lent
  · simp [none]
  · have priced : grandTotal J id lendRedemptions * p.finishLend ≤
        grandTotal J id lendPayouts * p.matchedLend + times J id .withdrawLend * p.matchedLend := by
      refine grandTotal_priced_le lent (fun _ out other => lendRedemptions_of_ne other out) ?_
      intro e member here redeems
      rw [redeems]
      exact audited.lend e member here redeems
    have covered := Nat.mul_le_mul_right p.finishLend ((matched_le_created ledger shape intact claimed).trans redeemed)
    have worth := worth_le ledger shape p.finishLend
    omega

theorem pledged_le (audited : Audited J id n p) (ledger : p.Ledger) (shape : p.Shape) (finished : p.phase = .finished)
    (claimed : p.AllClaimed) (redeemed : p.borrowCreated ≤ grandTotal J id borrowRedemptions) :
    p.finishBorrow ≤ grandTotal J id borrowPayouts + times J id .withdrawBorrow := by
  rcases Nat.eq_zero_or_pos p.borrowSupply with none | pledged
  · have parts := (shape.amounts.finished finished).1
    omega
  · have priced : grandTotal J id borrowRedemptions * p.finishBorrow ≤
        grandTotal J id borrowPayouts * p.borrowSupply + times J id .withdrawBorrow * p.borrowSupply := by
      refine grandTotal_priced_le pledged (fun _ out other => borrowRedemptions_of_ne other out) ?_
      intro e member here redeems
      rw [redeems]
      exact audited.borrow e member here redeems
    have intact : p.phase ≠ .liquidated := by simp [finished]
    have covered := (pledged_le_created ledger shape intact claimed).trans redeemed
    refine Nat.le_of_mul_le_mul_left ?_ pledged
    calc p.borrowSupply * p.finishBorrow ≤ grandTotal J id borrowRedemptions * p.finishBorrow :=
          Nat.mul_le_mul_right _ covered
      _ ≤ _ := priced
      _ = _ := by rw [← Nat.add_mul, Nat.mul_comm]

/--
What is left once everybody has had everything. Of the deposits it is at most a unit for each user but the first on
either side. Of the borrowers' part of a seized pledge it is at most a unit for each borrower but the first, and of the
lenders' part, where shares are rounded twice, a unit for each lender with the worth of one unit of the loan. Of the
pledge of a finished pool it is at most a unit for each redemption, and for each lender the worth of the receipt that
rounding left uncreated.
-/
theorem only_dust_is_stranded (launched : Launched self w) (foreign : Foreign self moves)
    (read : ((w.play moves).market self).pool? id = some p) :
    let J := w.journal self moves
    let all := grandTotal J id
    (p.AllClaimed → w.deposits self id moves ≤
      all cancels + all refunds + all loans + ((p.lenders.size - 1) + (p.borrowers.size - 1))) ∧
    (p.phase = .liquidated → p.AllRecovered →
      p.recoveryBorrow ≤ all borrowRecoveries + (p.borrowers.size - 1) ∧
      p.recoveryLend * p.matchedLend ≤
        all lendRecoveries * p.matchedLend + p.lenders.size * (p.recoveryLend + p.matchedLend)) ∧
    (p.phase = .finished → p.AllClaimed → p.lendCreated ≤ all lendRedemptions →
      p.borrowCreated ≤ all borrowRedemptions →
      p.finishLend * p.matchedLend ≤ all lendPayouts * p.matchedLend +
        (p.lenders.size * p.finishLend + times J id .withdrawLend * p.matchedLend) ∧
      p.finishBorrow ≤ all borrowPayouts + times J id .withdrawBorrow) := by
  intro J all
  have audits : Audits self ([] ++ J) id (0 + w.deposits self id moves) (w.play moves) :=
    play_audits (.of_launched launched) foreign
  rw [List.nil_append, Nat.zero_add] at audits
  have audited := audits.audited p read
  have chronicle := audits.recorded.pools id p read
  have ledger := audits.recorded.books.ledger p (Market.mem_of_pool? read)
  have shape := audits.recorded.books.shape p (Market.mem_of_pool? read)
  refine ⟨deposited_le audited chronicle ledger shape, recovered_le chronicle ledger shape, ?_⟩
  intro finished claimed lendRedeemed borrowRedeemed
  exact ⟨lent_le audited ledger shape (by simp [finished]) claimed lendRedeemed,
    pledged_le audited ledger shape finished claimed borrowRedeemed⟩

/-- Two lenders of the town, 99 in all, of which 60 are lent out. Everybody claims. -/
def townPair : List Move := townDeposits ++ [
  .transfer (someone 6) (someone 9) ⟨coin 0x53, 29⟩,
  request 9 .depositLend [⟨coin 0x53, 29⟩],
  .wait 10,
  request 8 .settle [],
  request 6 .claimLend [],
  request 9 .claimLend [],
  request 7 .claimBorrow []]

def townRepaid : List Move := townPair ++ [
  .wait 20,
  request 8 .finish [],
  request 6 .withdrawLend [⟨coin 0x33, 42⟩],
  request 9 .withdrawLend [⟨coin 0x33, 17⟩],
  request 7 .withdrawBorrow [⟨coin 0x34, 120⟩]]

/-- The settle token becomes three times as dear, and the pledge is seized. -/
def townSeized : List Move := townPair ++ [
  .deploy (someone 8) (someone 10) (.oracle (someone 1)),
  .call ⟨someone 8, someone 10, .act (.oracle (.setPrice (coin 0x53) 3000000000000000000)), []⟩,
  .call ⟨someone 8, someone 10, .act (.oracle (.setPrice (coin 0x50) 1000000000000000000)), []⟩,
  .call ⟨someone 8, someone 5, .act (.market (.set (.oracle (someone 10)))), []⟩,
  request 8 .liquidate [],
  request 6 .recoverLend [],
  request 9 .recoverLend [],
  request 7 .recoverBorrow []]

/-- One unit is left of the 99 that were lent, one of the 60 repaid and one of the 12 seized for the lenders. -/
theorem town_strands_single_units :
    let repaid := grandTotal (marketTown.journal (someone 5) townRepaid) 1
    let seized := grandTotal (marketTown.journal (someone 5) townSeized) 1
    (repaid refunds + repaid loans = 98 ∧ repaid lendPayouts = 59 ∧ seized lendRecoveries = 11) ∧
    marketTown.deposits (someone 5) 1 townRepaid ≤
      repaid cancels + repaid refunds + repaid loans + ((2 - 1) + (1 - 1)) ∧
    (60 * 60 ≤ repaid lendPayouts * 60 + (2 * 60 + 2 * 60) ∧ 60 ≤ repaid borrowPayouts + 1) ∧
    102 ≤ seized borrowRecoveries + (1 - 1) ∧ 12 * 60 ≤ seized lendRecoveries * 60 + 2 * (12 + 60) := by
  intro repaid seized
  refine ⟨by decide +kernel, ?_⟩
  have foreign : Foreign (someone 5) townRepaid ∧ Foreign (someone 5) townSeized := by
    unfold Foreign
    decide
  have ended : (((marketTown.play townRepaid).market (someone 5)).pool? 1).any (fun p =>
      p.lenders.size = 2 ∧ p.borrowers.size = 1 ∧ p.phase = .finished ∧ p.finishLend = 60 ∧ p.finishBorrow = 60 ∧
        p.matchedLend = 60 ∧ p.AllClaimed ∧ p.lendCreated ≤ repaid lendRedemptions ∧
        p.borrowCreated ≤ repaid borrowRedemptions) = true := by decide +kernel
  have closed : (((marketTown.play townSeized).market (someone 5)).pool? 1).any (fun p =>
      p.lenders.size = 2 ∧ p.borrowers.size = 1 ∧ p.phase = .liquidated ∧ p.recoveryLend = 12 ∧
        p.recoveryBorrow = 102 ∧ p.matchedLend = 60 ∧ p.AllRecovered) = true := by decide +kernel
  obtain ⟨p, read, here⟩ := (Option.any_eq_true _ _).1 ended
  obtain ⟨q, read', here'⟩ := (Option.any_eq_true _ _).1 closed
  obtain ⟨lenders, borrowers, finished, finishLend, finishBorrow, matched, claimed, lend, borrow⟩ := of_decide_eq_true here
  obtain ⟨lenders', borrowers', liquidated, recoveryLend, recoveryBorrow, matched', recovered⟩ := of_decide_eq_true here'
  obtain ⟨deposited, _, paid⟩ := only_dust_is_stranded marketTown_launched foreign.1 read
  obtain ⟨_, parted, _⟩ := only_dust_is_stranded marketTown_launched foreign.2 read'
  have one := deposited claimed
  have two := paid finished claimed lend borrow
  have three := parted liquidated recovered
  rw [lenders, borrowers] at one
  rw [lenders, finishLend, finishBorrow, matched] at two
  rw [lenders', borrowers', recoveryLend, recoveryBorrow, matched'] at three
  exact ⟨one, ⟨two.1, two.2⟩, three⟩

end TermLending.World
