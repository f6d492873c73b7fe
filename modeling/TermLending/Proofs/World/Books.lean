import TermLending.Proofs.World.Turn

/-!
# The books along a run

Whatever others do to a market that has been deployed, its books stay in order and its pools only move forward.
-/

namespace TermLending.World

open Finset

variable {self : Address} {w w' w₁ : World} {m : Move} {moves : List Move} {id : Nat} {p : Pool}

theorem launched_market (h : Launched self w) :
    w.kind self = some .market ∧ (w.market self).pools = [] ∧ (w.market self).receipts = {} := by
  obtain ⟨before, deployer, registry, oracle, feeAddress, h⟩ := h
  obtain ⟨_, founded, rfl⟩ := deploy_outcome h
  cases founded with
  | market market established =>
    have fresh : market.pools = [] ∧ market.receipts = {} := by
      unfold Market.establish at established
      simp only [bind_eq_ok_iff, pure_eq_ok_iff] at established
      obtain ⟨_, _, _, _, _, _, rfl⟩ := established
      exact ⟨rfl, rfl⟩
    have stored : (before.setMarket self market).market self = market := put_self _ _ _
    refine ⟨put_self _ _ _, ?_, ?_⟩
    · exact (congrArg Market.pools stored).trans fresh.1
    · exact (congrArg Market.receipts stored).trans fresh.2

/-! ### One move -/

theorem setMarket_market (w : World) (self : Address) (market : Market) :
    (w.setMarket self market).market self = market := put_self _ _ _

theorem market_of_delivered {market : Market} {terms : Terms} {out : Payout}
    (delivered : (w₁.setMarket self market).Delivered self terms out w') : w'.market self = market := by
  rw [delivered.only.market]
  exact put_self _ _ _

theorem Turn.kind (turn : Turn self w m w') {a : Address} (contract : w.kind a ≠ none) : w'.kind a = w.kind a := by
  cases turn with
  | acted e p t w₁ other paid read accepted delivered entry =>
    rw [delivered.only.kind]
    exact congrFun (transferAll_only paid).1.kind a
  | created caller payments w₁ terms market id event other paid created after silent =>
    rw [after]
    exact congrFun (transferAll_only paid).1.kind a
  | aside aside silent => exact aside.kind a contract

theorem Turn.books (turn : Turn self w m w') (books : (w.market self).Books) : (w'.market self).Books := by
  cases turn with
  | acted e p t w₁ other paid read accepted delivered entry =>
    rw [market_of_delivered delivered]
    exact books.setPool read accepted
  | created caller payments w₁ terms market id event other paid created after silent =>
    have stored : w'.market self = market := by
      rw [after]
      exact put_self _ _ _
    rw [stored]
    exact books.create created
  | aside aside silent => exact books.of_same aside.pools aside.receipts

/-- No pool is lost, and each only moves forward. -/
theorem Turn.later (turn : Turn self w m w') (read : (w.market self).pool? id = some p) :
    ∃ p', (w'.market self).pool? id = some p' ∧ p.Later p' := by
  cases turn with
  | acted e q t w₁ other paid readActed accepted delivered entry =>
    rw [market_of_delivered delivered, Market.pool?_setPool readActed]
    by_cases here : id = e.id
    · subst here
      rw [readActed] at read
      cases read
      exact ⟨t.pool, if_pos rfl, Pool.act_later accepted⟩
    · exact ⟨p, (if_neg here).trans read, .refl p⟩
  | created caller payments w₁ terms market n event other paid created after silent =>
    have stored : w'.market self = market := by
      rw [after]
      exact put_self _ _ _
    obtain ⟨_, _, _, _, rfl⟩ := Market.create_eq_ok created
    rw [stored]
    exact ⟨p, Market.pool?_append _ read, .refl p⟩
  | aside aside silent => exact ⟨p, (Market.pool?_of_pools aside.pools id).trans read, .refl p⟩

/-! ### Runs -/

theorem play_books (market : w.kind self = some .market) (books : (w.market self).Books)
    (foreign : Foreign self moves) :
    (w.play moves).kind self = some .market ∧ ((w.play moves).market self).Books := by
  refine play_invariant (I := fun w => w.kind self = some .market ∧ (w.market self).Books) ⟨market, books⟩ foreign
    (throughout_true w moves) fun w m ⟨market, books⟩ others _ _ => ?_
  have turn := turn_of_move market others
  exact ⟨(turn.kind (by simp [market])).trans market, turn.books books⟩

theorem play_later (market : w.kind self = some .market) (foreign : Foreign self moves)
    (read : (w.market self).pool? id = some p) :
    ∃ p', ((w.play moves).market self).pool? id = some p' ∧ p.Later p' := by
  induction moves generalizing w p with
  | nil => exact ⟨p, read, .refl p⟩
  | cons m rest ih =>
    have turn := turn_of_move market (foreign m List.mem_cons_self)
    obtain ⟨p₁, read₁, step⟩ := turn.later read
    obtain ⟨p₂, read₂, steps⟩ := ih ((turn.kind (by simp [market])).trans market)
      (fun m' member => foreign m' (List.mem_cons_of_mem m member)) read₁
    exact ⟨p₂, read₂, step.trans steps⟩

theorem launched_books (launched : Launched self w) : (w.market self).Books := by
  obtain ⟨_, empty, unbound⟩ := launched_market launched
  exact Market.books_empty empty unbound

/-- The supplies of a pool are the sums of its positions, its rosters list exactly the users that have one, and the
lend supply stays within its cap. -/
theorem supplies_agree_with_positions (launched : Launched self w) (foreign : Foreign self moves) :
    ∀ p ∈ ((w.play moves).market self).pools,
      p.lendSupply = ∑ u, (p.lendPosition u).stake ∧
      p.borrowSupply = ∑ u, (p.borrowPosition u).pledge ∧
      p.lenders.items.Nodup ∧
      (∀ u, u ∈ p.lenders ↔ 0 < (p.lendPosition u).stake) ∧
      (∀ u, (p.lending u).isSome ↔ 0 < (p.lendPosition u).stake) ∧
      p.borrowers.items.Nodup ∧
      (∀ u, u ∈ p.borrowers ↔ 0 < (p.borrowPosition u).pledge) ∧
      (∀ u, (p.borrowing u).isSome ↔ 0 < (p.borrowPosition u).pledge) ∧
      p.lendSupply ≤ p.maxSupply := by
  intro p member
  have market := (launched_market launched).1
  have ledger := (play_books market (launched_books launched) foreign).2.ledger p member
  refine ⟨ledger.lendSupply_eq, ledger.borrowSupply_eq, ledger.lend.nodup, fun u => ?_, fun u => ?_,
    ledger.borrow.nodup, fun u => ?_, fun u => ?_, ledger.capped⟩
  · rw [ledger.lend.mem_iff, Pool.unitsOf_lending]
  · rw [ledger.lend.stored_iff, Pool.unitsOf_lending]
  · rw [ledger.borrow.mem_iff, Pool.unitsOf_borrowing]
  · rw [ledger.borrow.stored_iff, Pool.unitsOf_borrowing]

/-! ### A small town -/

def someone (n : UInt8) : Address := ⟨List.replicate 31 0 ++ [n], by simp⟩

def coin (n : UInt8) : Token := ⟨[0x41, 0x41, n, 0x2d, 0x30, 0x30, 0x30, 0x30, 0x30, 0x30]⟩

/--
The registry at 1 has approved everything, the oracle at 2 prices all tokens alike, and the contracts at 3 and 4 issue
receipts that 5 alone creates. The account 6 has something to lend, and 7 something to pledge.
-/
def town : World where
  kind a :=
    if a = someone 1 then some .registry
    else if a = someone 2 then some .oracle
    else if a = someone 3 ∨ a = someone 4 then some .receipt
    else none
  balance a T :=
    if a = someone 6 ∧ T = coin 0x53 then 100
    else if a = someone 7 ∧ T = coin 0x50 then 300
    else 0
  mayIssue a T := (a = someone 3 ∧ T = coin 0x33) ∨ (a = someone 4 ∧ T = coin 0x34)
  registry _ := { threshold := 1, applications := fun _ => [{ applicant := .zero, signatures := ⟨[someone 8]⟩ }] }
  oracle _ := { idOf := fun _ => 1, price := fun _ => 1000000000000000000 }
  receipt a := {
    token :=
      if a = someone 3 then some (coin 0x33)
      else if a = someone 4 then some (coin 0x34)
      else none
    minters := ⟨[someone 5]⟩ }

def marketTown : World :=
  { town.setMarket (someone 5) { registry := someone 1, oracle := someone 2, feeAddress := someone 8 } with
    kind := put town.kind (someone 5) (some .market)
    deployer := put town.deployer (someone 5) (someone 8) }

theorem marketTown_launched : Launched (someone 5) marketTown :=
  ⟨town, someone 8, someone 1, someone 2, someone 8, rfl⟩

def townTerms : Terms where
  settleTime := 10
  endTime := 20
  interestRate := 500
  maxSupply := 1000
  mortgageRate := 20000
  settleToken := coin 0x53
  pledgeToken := coin 0x50
  lendReceipt := someone 3
  borrowReceipt := someone 4
  liquidationThreshold := 11000

def request (user : UInt8) (action : Pool.Action) (payments : List Payment) : Move :=
  .call ⟨someone user, someone 5, .act (.market (.onPool 1 action)), payments⟩

/-- A pool is created, 6 lends and takes a part back, and 7 pledges. -/
def townDeposits : List Move := [
  .call ⟨someone 8, someone 5, .act (.market (.create townTerms)), []⟩,
  request 6 .depositLend [⟨coin 0x53, 100⟩],
  request 6 (.cancelLend 30) [],
  request 7 .depositBorrow [⟨coin 0x50, 120⟩]]

theorem townDeposits_foreign : Foreign (someone 5) townDeposits := by
  unfold Foreign
  decide

theorem town_supplies_agree :
    ((marketTown.play townDeposits).market (someone 5)).pools.map (fun p => p.lendSupply) = [70] ∧
      ∀ p ∈ ((marketTown.play townDeposits).market (someone 5)).pools,
        p.lendSupply = ∑ u, (p.lendPosition u).stake :=
  ⟨by decide +kernel, fun p member =>
    (supplies_agree_with_positions marketTown_launched townDeposits_foreign p member).1⟩

end TermLending.World
