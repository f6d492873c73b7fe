import TermLending.Proofs.Pool.Matching
import TermLending.Proofs.World.Kindred
import TermLending.Proofs.World.Liquidation

/-!
# Settlements

A settlement looks at the world before it and writes the outcome to the pool: the largest loan that the pledge secures
at the prices of the oracle, which is also what the capacity query promises then.
-/

namespace TermLending.World

open Pool

variable {self user : Address} {w : World} {moves : List Move} {p : Pool} {o : Outcome} {id : Nat}
  {action : Pool.Action} {payments : List Payment}

/-- A call on a pool that succeeds takes the payments, and then carries out what the pool makes of the scene before. -/
theorem concluded_of_onPool (read : (w.market self).pool? id = some p)
    (done : w.onPool self user id action payments = .ok o) :
    w.kind self = some .market ∧ id ≤ maxU32 ∧
      ∃ w₁ t, w.transferAll user self payments = .ok w₁ ∧ p.act (w.scene self user payments id p) action = .ok t ∧
        w₁.conclude self id t = .ok o := by
  obtain ⟨w₁, paid, served, done⟩ := call_act_eq_ok_iff.1 done
  have only := (transferAll_only paid).1
  have market : w₁.kind self = some .market := kind_of_accept served
  have fits : id ≤ maxU32 := by
    obtain ⟨_, _, served⟩ := bind_eq_ok_iff.1 served
    obtain ⟨_, _, served⟩ := bind_eq_ok_iff.1 served
    obtain ⟨_, _, words⟩ := bind_eq_ok_iff.1 served
    obtain ⟨_, word, _⟩ := bind_eq_ok_iff.1 words
    exact demand_eq_ok_iff.1 word
  obtain ⟨_, _, done⟩ := bind_eq_ok_iff.1 done
  obtain ⟨q, found, done⟩ := bind_eq_ok_iff.1 done
  obtain ⟨t, accepted, concluded⟩ := bind_eq_ok_iff.1 done
  dsimp only at found accepted concluded
  rw [Market.pool_eq_ok_iff, only.market, read] at found
  cases found
  rw [scene_of_only only] at accepted
  exact ⟨only.kind ▸ market, fits, w₁, t, paid, accepted, concluded⟩

theorem market_of_conclude {w₁ : World} {t : Transition} (paid : w.transferAll user self payments = .ok w₁)
    (concluded : w₁.conclude self id t = .ok o) : o.world.market self = (w.market self).setPool id t.pool := by
  rw [market_of_delivered (delivered_of_conclude concluded), (transferAll_only paid).1.market]

theorem stored_of_conclude {w₁ : World} {t : Transition} (read : (w.market self).pool? id = some p)
    (paid : w.transferAll user self payments = .ok w₁) (concluded : w₁.conclude self id t = .ok o) :
    (o.world.market self).pool? id = some t.pool := by
  rw [market_of_conclude paid concluded, Market.pool?_setPool read]
  exact if_pos rfl

/-- A call on a pool that succeeds stores what the pool makes of it, in the scene before the call. -/
theorem stored_of_onPool (read : (w.market self).pool? id = some p)
    (done : w.onPool self user id action payments = .ok o) :
    w.kind self = some .market ∧ id ≤ maxU32 ∧
      ∃ t, p.act (w.scene self user payments id p) action = .ok t ∧ (o.world.market self).pool? id = some t.pool := by
  obtain ⟨market, fits, _, t, paid, accepted, concluded⟩ := concluded_of_onPool read done
  exact ⟨market, fits, t, accepted, stored_of_conclude read paid concluded⟩

/-- No call on a pool moves the prices that the pool sees. -/
theorem prices_of_onPool (read : (w.market self).pool? id = some p)
    (done : w.onPool self user id action payments = .ok o) (terms : Terms) :
    o.world.prices (o.world.market self).oracle terms = w.prices (w.market self).oracle terms := by
  obtain ⟨_, _, w₁, t, paid, _, concluded⟩ := concluded_of_onPool read done
  have only := (transferAll_only paid).1
  have delivered := delivered_of_conclude concluded
  rw [market_of_delivered delivered, prices_of_only delivered.only]
  show w₁.prices (w₁.market self).oracle terms = _
  rw [prices_of_only only, only.market]

/--
A settlement of a pool that has both sides makes the largest loan that lenders offer and the pledge secures, which is
the smaller of what they offer and what the capacity query answers. It uses up one of the sides; where all that is
offered is lent, the matched pledge is what the loan calls for, without the fraction.
-/
theorem settlement_makes_the_largest_loan (launched : Launched self w) (foreign : Foreign self moves)
    (read : ((w.play moves).market self).pool? id = some p)
    (settled : (w.play moves).onPool self user id .settle payments = .ok o) :
    let w' := w.play moves
    ∃ p', (o.world.market self).pool? id = some p' ∧
      (0 < p.lendSupply → 0 < p.borrowSupply →
        ∃ prices, w'.prices (w'.market self).oracle p.toTerms = .ok prices ∧
          0 < prices.settle ∧ 0 < prices.pledge ∧
          IsGreatest
            {m | m ≤ p.lendSupply ∧
              m * prices.settle * p.mortgageRate ≤ p.borrowSupply * prices.pledge * 10000} p'.matchedLend ∧
          (∃ c, w'.askPool self id (.capacity p.borrowSupply) = .ok (.number c) ∧
            p'.matchedLend = min p.lendSupply c) ∧
          p'.matchedBorrow ≤ p.borrowSupply ∧
          (p'.matchedLend = p.lendSupply ∨ p'.matchedBorrow = p.borrowSupply) ∧
          (p'.matchedLend = p.lendSupply →
            p'.matchedBorrow = p.lendSupply * p.mortgageRate * prices.settle / (10000 * prices.pledge))) ∧
      (p.lendSupply = 0 ∨ p.borrowSupply = 0 → p'.matchedLend = 0 ∧ p'.matchedBorrow = 0) := by
  intro w'
  have books := (play_books (launched_market launched).1 (launched_books launched) foreign).2
  have shape := books.shape p (Market.mem_of_pool? read)
  obtain ⟨market, fits, t, accepted, stored⟩ := stored_of_onPool read settled
  refine ⟨t.pool, stored, ?_, fun missing => settle_unmatched shape missing accepted⟩
  intro lent staked
  obtain ⟨prices, known, best, c, carried, smaller⟩ := settle_matches lent staked accepted
  obtain ⟨priced, settle, pledge⟩ := Scene.positivePrices_eq_ok_iff.1 known
  refine ⟨prices, priced, settle, pledge, best.largest, ⟨c, ?_, smaller⟩, best.pledged, best.exhausted, best.owed⟩
  rw [askPool_eq market fits read]
  -- The capacity is computed from prices alone, so it does not matter who asks.
  exact bind_pure_eq_ok_iff.2 ⟨c, carried, rfl⟩

/-- In the town 70 are offered, and the 120 pledged secure a loan of 60. -/
theorem town_lends_what_is_secured :
    ∃ p o p', ((marketTown.play townDue).market (someone 5)).pool? 1 = some p ∧
      (marketTown.play townDue).onPool (someone 5) (someone 8) 1 .settle [] = .ok o ∧
      (o.world.market (someone 5)).pool? 1 = some p' ∧
      p.lendSupply = 70 ∧ p'.matchedLend = 60 ∧
      (p'.matchedLend = p.lendSupply ∨ p'.matchedBorrow = p.borrowSupply) := by
  have foreign : Foreign (someone 5) townDue := by
    unfold Foreign
    decide
  have supplies : (((marketTown.play townDue).market (someone 5)).pool? 1).map
      (fun p => (p.lendSupply, p.borrowSupply)) = some (70, 120) := by decide +kernel
  have lent : ((marketTown.play townDue).onPool (someone 5) (someone 8) 1 .settle []).toOption.map
      (fun o => ((o.world.market (someone 5)).pool? 1).map fun p => p.matchedLend) = some (some 60) := by decide +kernel
  obtain ⟨p, read, both⟩ := Option.map_eq_some_iff.1 supplies
  obtain ⟨offered, staked⟩ := Prod.mk.inj both
  cases settled : (marketTown.play townDue).onPool (someone 5) (someone 8) 1 .settle [] with
  | error fault =>
    rw [settled] at lent
    cases lent
  | ok o =>
    obtain ⟨p', stored, made, _⟩ := settlement_makes_the_largest_loan marketTown_launched foreign read settled
    obtain ⟨_, _, _, _, _, _, _, exhausted, _⟩ := made (by omega) (by omega)
    rw [settled] at lent
    obtain ⟨q, same, matched⟩ := Option.map_eq_some_iff.1 (Option.some.inj lent)
    rw [stored] at same
    cases same
    exact ⟨p, o, p', read, rfl, stored, offered, matched, exhausted⟩

end TermLending.World
