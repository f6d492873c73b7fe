import TermLending.Proofs.Pool.Obligations
import TermLending.Proofs.World.Circulation

/-!
# Solvency

Pools share the account of their market, in whatever roles they use its tokens. The account always holds what all of
them owe together, as long as nobody else creates receipts.
-/

namespace TermLending

open Finset

namespace Pool

variable {p : Pool} {s : Scene} {t : Transition} {T : Token}

/-- What an action takes from the payments that came with it: a deposit, or receipts that are handed in. -/
theorem act_takes {action : Action} (lendId borrowId : Option Token) (accepted : p.act s action = .ok t)
    (lend : ∀ token, s.lendToken = .ok token → lendId = some T → token = T)
    (borrow : ∀ token, s.borrowToken = .ok token → borrowId = some T → token = T) :
    (if T = p.settleToken then lendDeposit s action else 0) + (if T = p.pledgeToken then borrowDeposit s action else 0) +
        (if lendId = some T then t.payout.burnLend else 0) + (if borrowId = some T then t.payout.burnBorrow else 0) ≤
      World.paid s.attached T := by
  cases act_effect accepted with
  | depositLend deposit | depositBorrow deposit => simp [lendDeposit, borrowDeposit, World.paid, deposit.attached]
  | withdrawLend _ paid =>
    obtain ⟨token, known, _, attached, _⟩ := receiptsPaid_eq_ok_iff.1 paid
    by_cases issued : lendId = some T
    · simp [lendDeposit, borrowDeposit, World.paid, attached, lend token known issued, issued]
    · simp [lendDeposit, borrowDeposit, issued]
  | withdrawBorrow _ paid =>
    obtain ⟨token, known, _, attached, _⟩ := receiptsPaid_eq_ok_iff.1 paid
    by_cases issued : borrowId = some T
    · simp [lendDeposit, borrowDeposit, World.paid, attached, borrow token known issued, issued]
    · simp [lendDeposit, borrowDeposit, issued]
  | _ => simp [lendDeposit, borrowDeposit]

end Pool

namespace World

variable {self : Address} {w w' w₁ : World} {m : Move} {moves : List Move} {kept : Address → Prop} {p q : Pool}
  {t : Transition} {e : Errand} {T : Token}

noncomputable def poolOwes (w : World) (T : Token) (p : Pool) : ℚ :=
  (if T = p.settleToken then (p.settleOwed : ℚ) else 0) +
    (if T = p.pledgeToken then p.pledgeOwed (w.lendUnits p) (w.borrowUnits p) else 0)

noncomputable def owes (w : World) (self : Address) (T : Token) : ℚ :=
  ((w.market self).pools.map (w.poolOwes T)).sum

theorem poolOwes_nonneg (w : World) (T : Token) (p : Pool) : 0 ≤ w.poolOwes T p := by
  have pledge := p.pledgeOwed_nonneg (w.lendUnits p) (w.borrowUnits p)
  unfold poolOwes
  positivity

theorem poolOwes_le_owes (member : p ∈ (w.market self).pools) (T : Token) : w.poolOwes T p ≤ w.owes self T := by
  refine List.single_le_sum ?_ _ (List.mem_map_of_mem member)
  intro debt owed
  obtain ⟨q, _, rfl⟩ := List.mem_map.1 owed
  exact poolOwes_nonneg w T q

theorem poolOwes_le (lend : w'.lendUnits p ≤ w.lendUnits p) (borrow : w'.borrowUnits p ≤ w.borrowUnits p) :
    w'.poolOwes T p ≤ w.poolOwes T p := by
  have less : p.pledgeOwed (w'.lendUnits p) (w'.borrowUnits p) ≤ p.pledgeOwed (w.lendUnits p) (w.borrowUnits p) :=
    Pool.pledgeOwed_le rfl rfl rfl (Nat.add_le_add_right lend _) (Nat.add_le_add_right borrow _) le_rfl
  unfold poolOwes
  gcongr
  split
  · exact less
  · exact le_rfl

theorem ite_add_le {P : Prop} [Decidable P] {a b c d : ℚ} (h : a + b ≤ c + d) :
    (if P then a else 0) + (if P then b else 0) ≤ (if P then c else 0) + (if P then d else 0) := by
  split
  · exact h
  · exact le_rfl

theorem token_of_receiptToken {r : Address} {token : Token} (read : w.receiptToken r = .ok token)
    (issued : (w.receipt r).token = some T) : token = T := by
  rw [(receiptToken_eq_ok_iff.1 read).2, issued]
  rfl

/-- The pool that acts owes less by what leaves the market, and more by what came with the call at most. -/
theorem act_poolOwes {caller : Address} {payments : List Payment} {id : Nat} {action : Pool.Action}
    (lend borrow : Nat) (circulation : Circulation self kept w) (member : p ∈ (w.market self).pools)
    (accepted : p.act (w₁.scene self caller payments id p) action = .ok t)
    (lends : lend + t.payout.burnLend ≤ w.lendUnits p + t.payout.mintLend)
    (borrows : borrow + t.payout.burnBorrow ≤ w.borrowUnits p + t.payout.mintBorrow) (T : Token) :
    (if T = p.settleToken then (t.pool.settleOwed : ℚ) else 0) +
        (if T = p.pledgeToken then t.pool.pledgeOwed lend borrow else 0) + w₁.outgoing p.toTerms t.payout T ≤
      w.poolOwes T p + World.paid payments T := by
  have ledger := circulation.books.ledger p member
  have shape := circulation.books.shape p member
  have settle := (Nat.cast_le (α := ℚ)).2 (Pool.act_settleOwed ledger shape accepted)
  have pledge := Pool.act_pledgeOwed ledger shape (circulation.backed p member) accepted lends borrows
  have taken := Pool.act_takes (T := T) _ _ accepted (fun token => token_of_receiptToken)
    (fun token => token_of_receiptToken)
  rw [Nat.cast_add, Nat.cast_add] at settle
  have inSettle := ite_add_le (P := T = p.settleToken) settle
  have inPledge := ite_add_le (P := T = p.pledgeToken) pledge
  have taken' := (Nat.cast_le (α := ℚ)).2 taken
  unfold poolOwes outgoing receiptsIn
  push_cast at taken' ⊢
  change _ ≤ ((World.paid payments T : Nat) : ℚ) at taken'
  linarith

theorem acted_poolOwes (circulation : Circulation self kept w)
    (paid : w.transferAll e.caller self e.payments = .ok w₁) (read : (w.market self).pool? e.id = some p)
    (accepted : p.act (w₁.scene self e.caller e.payments e.id p) e.action = .ok t)
    (delivered : (w₁.setMarket self ((w.market self).setPool e.id t.pool)).Delivered self t.pool.toTerms t.payout w')
    (T : Token) :
    w'.poolOwes T t.pool + w₁.outgoing p.toTerms t.payout T ≤ w.poolOwes T p + World.paid e.payments T := by
  have member := Market.mem_of_pool? read
  have terms := (Pool.act_later accepted).terms
  rw [terms] at delivered
  have units := acted_units (circulation.books.lend_ne_borrow member) paid delivered terms
  have settleToken : t.pool.settleToken = p.settleToken := congrArg Terms.settleToken terms
  have pledgeToken : t.pool.pledgeToken = p.pledgeToken := congrArg Terms.pledgeToken terms
  unfold poolOwes
  rw [settleToken, pledgeToken]
  exact act_poolOwes _ _ circulation member accepted units.1 units.2 T

/-! ### Solvency along a run -/

def Solvent (self : Address) (w : World) : Prop := ∀ T, w.owes self T ≤ w.balance self T

theorem Solvent.acted (solvent : Solvent self w) (circulation : Circulation self kept w) (other : e.caller ≠ self)
    (paid : w.transferAll e.caller self e.payments = .ok w₁) (read : (w.market self).pool? e.id = some p)
    (accepted : p.act (w₁.scene self e.caller e.payments e.id p) e.action = .ok t)
    (delivered : (w₁.setMarket self ((w.market self).setPool e.id t.pool)).Delivered self t.pool.toTerms t.payout w') :
    Solvent self w' := by
  intro T
  have one := acted_poolOwes circulation paid read accepted delivered T
  have brought := transferAll_balance paid self T
  have left := delivered.balance self T
  have terms := (Pool.act_later accepted).terms
  have stored := market_of_delivered delivered
  rw [if_neg other.symm, if_pos rfl] at brought
  rw [if_pos rfl, terms] at left
  have debts : w'.owes self T + w.poolOwes T p = w.owes self T + w'.poolOwes T t.pool := by
    unfold owes
    rw [stored]
    cases number : e.id with
    | zero =>
      rw [number] at read
      cases read
    | succ k =>
      rw [number] at read
      refine sum_map_set read ?_
      intro i q away found
      obtain ⟨lend, borrow⟩ := acted_units_of_other circulation.books paid (terms ▸ delivered) (number ▸ read)
        (i := i + 1) found (by omega)
      unfold poolOwes
      rw [lend, borrow]
  have before := solvent T
  have accounts : w.balance self T + World.paid e.payments T ≤
      w'.balance self T + w₁.outgoing p.toTerms t.payout T := by
    rw [← brought, Nat.add_zero]
    exact (Nat.le_add_right _ _).trans left.ge
  have accounts' := (Nat.cast_le (α := ℚ)).2 accounts
  push_cast at accounts'
  linarith

theorem Solvent.created {caller : Address} {payments : List Payment} {market : Market} {n : Nat} {terms : Terms}
    {event : Event} (solvent : Solvent self w) (other : caller ≠ self)
    (paid : w.transferAll caller self payments = .ok w₁)
    (created : (w.market self).create terms = .ok (market, n, event)) : Solvent self (w₁.setMarket self market) := by
  intro T
  obtain ⟨_, receipts⟩ := transferAll_only paid
  obtain ⟨_, _, _, _, rfl⟩ := Market.create_eq_ok created
  have fresh : w.poolOwes T { toTerms := terms } = 0 := by
    simp [poolOwes, Pool.settleOwed, Pool.pledgeOwed]
  have debts (market : Market) (pools : market.pools = (w.market self).pools ++ [{ toTerms := terms }]) :
      (w₁.setMarket self market).owes self T = w.owes self T := by
    have units : (w₁.setMarket self market).poolOwes T = w.poolOwes T := by
      funext q
      unfold poolOwes lendUnits borrowUnits
      rw [← receipts]
      rfl
    have stored : (w₁.setMarket self market).market self = market := put_self _ _ _
    unfold owes
    rw [units, stored, pools, List.map_append, List.sum_append, List.map_singleton, List.sum_singleton, fresh, add_zero]
  rw [debts _ rfl]
  have held := (transferAll_aside other paid).balance T
  exact (solvent T).trans (Nat.cast_le.2 held)

theorem Solvent.aside (solvent : Solvent self w) (circulation : Circulation self kept w)
    (custody : Custody self kept w) (aside : w.Aside self w') : Solvent self w' := by
  intro T
  have debts : w'.owes self T ≤ w.owes self T := by
    unfold owes
    rw [aside.pools]
    refine List.sum_le_sum ?_
    intro p member
    have lendKept := custody.bound _ (circulation.books.mem_of_contract member (Market.mem_contracts_iff.2 (.inl rfl)))
    have borrowKept :=
      custody.bound _ (circulation.books.mem_of_contract member (Market.mem_contracts_iff.2 (.inr rfl)))
    exact poolOwes_le (aside.supply_le custody lendKept) (aside.supply_le custody borrowKept)
  exact debts.trans ((solvent T).trans (Nat.cast_le.2 (aside.balance T)))

theorem Solvent.turn (solvent : Solvent self w) (circulation : Circulation self kept w)
    (custody : Custody self kept w) (turn : Turn self w m w') : Solvent self w' := by
  cases turn with
  | acted e p t w₁ other paid read accepted delivered entry =>
    exact solvent.acted circulation other paid read accepted delivered
  | created caller payments w₁ terms market n event other paid created after silent =>
    rw [after]
    exact solvent.created other paid created
  | aside aside silent => exact solvent.aside circulation custody aside

/-- Receipt contracts that serve the market at the end of a run are the only ones that ever served it. -/
theorem bound_of_prefix {earlier later : List Move} (launched : Launched self w) (foreign : Foreign self (earlier ++ later))
    {r : Address} (bound : r ∈ ((w.play earlier).market self).receipts) :
    ∃ p ∈ ((w.play (earlier ++ later)).market self).pools, r ∈ p.contracts := by
  obtain ⟨market, books⟩ := play_books (launched_market launched).1 (launched_books launched) foreign.earlier
  obtain ⟨p, member, serves⟩ := books.exists_of_mem bound
  obtain ⟨id, read⟩ := Market.exists_pool?_of_mem member
  obtain ⟨p', read', lasting⟩ := play_later market foreign.later read
  rw [play_append]
  refine ⟨p', Market.mem_of_pool? read', ?_⟩
  unfold Pool.contracts
  rw [lasting.terms]
  exact serves

theorem Solvent.of_launched (launched : Launched self w) : Solvent self w := by
  intro T
  obtain ⟨_, empty, _⟩ := launched_market launched
  simp [owes, empty]

/-- The receipt contracts of the pools that a run creates. -/
def Serves (self : Address) (w : World) (moves : List Move) (r : Address) : Prop :=
  ∃ p ∈ ((w.play moves).market self).pools, r ∈ p.contracts

theorem serves_of_pools {P : Address → Prop}
    (pools : ∀ p ∈ ((w.play moves).market self).pools, P p.lendReceipt ∧ P p.borrowReceipt) {r : Address}
    (serves : Serves self w moves r) : P r := by
  obtain ⟨p, member, serves⟩ := serves
  rcases Market.mem_contracts_iff.1 serves with rfl | rfl
  · exact (pools p member).1
  · exact (pools p member).2

theorem custody_of_alone (launched : Launched self w) (foreign : Foreign self moves)
    (alone : ∀ p ∈ ((w.play moves).market self).pools,
      w.Throughout (OnlyMinter self p.lendReceipt) moves ∧ w.Throughout (OnlyMinter self p.borrowReceipt) moves) :
    w.Throughout (Custody self (Serves self w moves)) moves := by
  rw [throughout_iff]
  intro earlier later split
  subst split
  constructor
  · intro r bound
    exact bound_of_prefix launched foreign bound
  · intro r serves
    have only := serves_of_pools (P := fun r => w.Throughout (OnlyMinter self r) (earlier ++ later)) alone serves
    exact throughout_iff.1 only earlier later rfl

theorem play_circulation (launched : Launched self w) (foreign : Foreign self moves)
    (unused : ∀ r, kept r → (w.receipt r).supply = 0) (custody : w.Throughout (Custody self kept) moves) :
    Circulation self kept (w.play moves) ∧ Solvent self (w.play moves) := by
  refine play_invariant (I := fun w => Circulation self kept w ∧ Solvent self w)
    ⟨.of_launched launched unused, .of_launched launched⟩ foreign custody ?_
  intro w m ⟨circulation, solvent⟩ others custody custody'
  have turn := turn_of_move circulation.market others
  exact ⟨circulation.turn turn custody custody', solvent.turn circulation custody turn⟩

theorem play_solvent (launched : Launched self w) (foreign : Foreign self moves)
    (unused : ∀ p ∈ ((w.play moves).market self).pools, w.lendUnits p = 0 ∧ w.borrowUnits p = 0)
    (alone : ∀ p ∈ ((w.play moves).market self).pools,
      w.Throughout (OnlyMinter self p.lendReceipt) moves ∧ w.Throughout (OnlyMinter self p.borrowReceipt) moves) :
    Circulation self (Serves self w moves) (w.play moves) ∧ Solvent self (w.play moves) := by
  refine play_circulation launched foreign ?_ (custody_of_alone launched foreign alone)
  intro r serves
  exact serves_of_pools (P := fun r => (w.receipt r).supply = 0) unused serves

/-- A market that alone creates and destroys the receipts of its pools holds, of every token, all that it owes. -/
theorem market_stays_solvent (launched : Launched self w) (foreign : Foreign self moves)
    (unused : ∀ p ∈ ((w.play moves).market self).pools, w.lendUnits p = 0 ∧ w.borrowUnits p = 0)
    (alone : ∀ p ∈ ((w.play moves).market self).pools,
      w.Throughout (OnlyMinter self p.lendReceipt) moves ∧ w.Throughout (OnlyMinter self p.borrowReceipt) moves)
    (T : Token) : (w.play moves).owes self T ≤ (w.play moves).balance self T := by
  apply (play_solvent launched foreign unused alone).2

/-- The loan of the town from its first deposits to its end, which both sides have partly claimed. -/
def townLoan : List Move := townDeposits ++ [
  .wait 10,
  request 8 .settle [],
  request 6 .claimLend [],
  request 7 .claimBorrow [],
  .wait 20,
  request 8 .finish [],
  request 6 .withdrawLend [⟨coin 0x33, 30⟩]]

theorem townLoan_foreign : Foreign (someone 5) townLoan := by
  unfold Foreign
  decide

theorem town_stays_solvent :
    (marketTown.play townLoan).balance (someone 5) (coin 0x50) = 90 ∧
      (marketTown.play townLoan).owes (someone 5) (coin 0x50) ≤ 90 := by
  have held : (marketTown.play townLoan).balance (someone 5) (coin 0x50) = 90 := by decide +kernel
  have solvent := market_stays_solvent marketTown_launched townLoan_foreign (by decide +kernel) (by decide +kernel)
    (coin 0x50)
  rw [held] at solvent
  exact ⟨held, solvent⟩

end World

end TermLending
