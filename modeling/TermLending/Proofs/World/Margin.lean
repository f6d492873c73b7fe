import TermLending.Proofs.Pool.Margin
import TermLending.Proofs.World.Matching

/-!
# Safe from early closing

Whatever happens after a settlement, a pool stays out of reach of those who would close it early until the price of the
pledge has lost more against that of the loan than lies between the mortgage rate and the threshold.
-/

namespace TermLending.World

open Pool

variable {self user : Address} {w v : World} {moves later : List Move} {p : Pool} {o : Outcome} {id : Nat}
  {payments : List Payment} {prices prices' : Prices} {rate : Nat}

/-- A settlement with deposits on both sides leaves a margin that no later move takes away. -/
theorem margin_along (market : w.kind self = some .market) (read : (w.market self).pool? id = some p)
    (lent : 0 < p.lendSupply) (staked : 0 < p.borrowSupply)
    (settled : w.onPool self user id .settle payments = .ok o) (foreign : Foreign self later) :
    ∃ prices, w.prices (w.market self).oracle p.toTerms = .ok prices ∧
      (o.world.play later).kind self = some .market ∧ id ≤ maxU32 ∧
      ∃ p', ((o.world.play later).market self).pool? id = some p' ∧ p'.toTerms = p.toTerms ∧ p'.Margin prices := by
  obtain ⟨_, fits, t, accepted, stored⟩ := stored_of_onPool read settled
  obtain ⟨prices, known, margin⟩ := margin_of_settle lent staked accepted
  have running : t.pool.phase.isSettled = true := by
    obtain ⟨_, _, _, _, rfl⟩ := settle_eq_ok_iff.1 accepted
    rfl
  have still : o.world.kind self = some .market := by
    rw [← after_call_ok settled, after_kind (by simp [market]), market]
  obtain ⟨p', read', lasting⟩ := play_later still foreign stored
  refine ⟨prices, known, ?_, fits, p', read', lasting.terms.trans (act_later accepted).terms,
    margin.later running lasting⟩
  rw [play_kind (by simp [still]), still]

theorem health_of_margin (market : v.kind self = some .market) (fits : id ≤ maxU32)
    (read : (v.market self).pool? id = some p) (known : v.prices (v.market self).oracle p.toTerms = .ok prices')
    (settle : 0 < prices'.settle) (pledge : 0 < prices'.pledge) (margin : p.Margin prices) (small : rate ≤ p.mortgageRate)
    (left : rate * prices'.settle * prices.pledge ≤ prices'.pledge * prices.settle * p.mortgageRate) :
    ∃ health, v.askPool self id .health = .ok (.number health) ∧ rate ≤ health := by
  obtain ⟨health, computed, high⟩ := health_of_covered (s := v.scene self .zero [] id p) known settle pledge
    (small.trans margin.rated) (margin.covers left)
  refine ⟨health, ?_, high⟩
  rw [askPool_eq market fits read]
  exact bind_pure_eq_ok_iff.2 ⟨health, computed, rfl⟩

theorem fallen_of_liquidated (read : (v.market self).pool? id = some p) (margin : p.Margin prices)
    (closed : v.onPool self user id .liquidate payments = .ok o) :
    ∃ prices', v.prices (v.market self).oracle p.toTerms = .ok prices' ∧
      prices'.pledge * prices.settle * p.mortgageRate < p.liquidationThreshold * prices'.settle * prices.pledge := by
  obtain ⟨_, _, t, accepted, _⟩ := stored_of_onPool read closed
  exact margin.fallen accepted

/--
At the prices of its settlement, which the settlement leaves as they are, a pool with deposits on both sides has the
mortgage rate as its health, or more. As long as the price ratio of pledge and loan keeps at least the part of its value
that the threshold is of the mortgage rate, the health does not fall below the threshold, and nobody closes the pool
early. Whoever closes it has found the ratio lower.
-/
theorem settlement_leaves_a_margin (launched : Launched self w)
    (read : ((w.play moves).market self).pool? id = some p) (lent : 0 < p.lendSupply) (staked : 0 < p.borrowSupply)
    (settled : (w.play moves).onPool self user id .settle payments = .ok o) (foreign : Foreign self later) :
    let w' := w.play moves
    let v := o.world.play later
    ∃ prices, w'.prices (w'.market self).oracle p.toTerms = .ok prices ∧
      o.world.prices (o.world.market self).oracle p.toTerms = .ok prices ∧ 0 < prices.settle ∧ 0 < prices.pledge ∧
      (∀ prices', v.prices (v.market self).oracle p.toTerms = .ok prices' → 0 < prices'.settle → 0 < prices'.pledge →
        (prices' = prices →
          ∃ health, v.askPool self id .health = .ok (.number health) ∧ p.mortgageRate ≤ health) ∧
        (prices' = prices ∨ p.liquidationThreshold * prices'.settle * prices.pledge ≤
            prices'.pledge * prices.settle * p.mortgageRate →
          (∃ health, v.askPool self id .health = .ok (.number health) ∧ p.liquidationThreshold ≤ health) ∧
          ∀ caller payments, ∃ fault, v.onPool self caller id .liquidate payments = .error fault)) ∧
      ∀ caller payments o', v.onPool self caller id .liquidate payments = .ok o' →
        ∃ prices', v.prices (v.market self).oracle p.toTerms = .ok prices' ∧
          prices'.pledge * prices.settle * p.mortgageRate <
            p.liquidationThreshold * prices'.settle * prices.pledge := by
  intro w' v
  obtain ⟨market, sound⟩ := play_market_sound (launched_market launched).1 (launched_sound launched) moves
  have buffer : p.liquidationThreshold < p.mortgageRate := (sound.pools p (Market.mem_of_pool? read)).terms.buffer
  obtain ⟨prices, known, still, fits, p', read', terms, margin⟩ := margin_along market read lent staked settled foreign
  have fallen (caller : Address) (payments : List Payment) (o' : Outcome)
      (closed : v.onPool self caller id .liquidate payments = .ok o') :
      ∃ prices', v.prices (v.market self).oracle p.toTerms = .ok prices' ∧
        prices'.pledge * prices.settle * p.mortgageRate < p.liquidationThreshold * prices'.settle * prices.pledge := by
    rw [← terms]
    exact fallen_of_liquidated read' margin closed
  refine ⟨prices, known, (prices_of_onPool read settled _).trans known, margin.settle, margin.pledge, ?_, fallen⟩
  intro prices' known' settle pledge
  have healthy {r : Nat} (small : r ≤ p.mortgageRate)
      (left : r * prices'.settle * prices.pledge ≤ prices'.pledge * prices.settle * p.mortgageRate) :
      ∃ health, v.askPool self id .health = .ok (.number health) ∧ r ≤ health := by
    rw [← terms] at known' small left
    exact health_of_margin still fits read' known' settle pledge margin small left
  have unchanged {r : Nat} (small : r ≤ p.mortgageRate) (same : prices' = prices) :
      r * prices'.settle * prices.pledge ≤ prices'.pledge * prices.settle * p.mortgageRate := by
    subst same
    calc r * prices'.settle * prices'.pledge = prices'.pledge * prices'.settle * r := by ring
      _ ≤ prices'.pledge * prices'.settle * p.mortgageRate := Nat.mul_le_mul_left _ small
  refine ⟨fun same => healthy (Nat.le_refl _) (unchanged (Nat.le_refl _) same), ?_⟩
  intro kept
  have left := kept.elim (unchanged buffer.le) fun left => left
  refine ⟨healthy buffer.le left, ?_⟩
  intro caller payments
  cases closed : v.onPool self caller id .liquidate payments with
  | error fault => exact ⟨fault, rfl⟩
  | ok o' =>
    obtain ⟨found, read'', lower⟩ := fallen caller payments o' closed
    cases known'.symm.trans read''
    exact absurd left (Nat.not_le_of_lt lower)

/-- The settle token becomes dearer by a half. -/
def townDip : List Move := [
  .deploy (someone 8) (someone 9) (.oracle (someone 1)),
  .call ⟨someone 8, someone 9, .act (.oracle (.setPrice (coin 0x53) 1500000000000000000)), []⟩,
  .call ⟨someone 8, someone 9, .act (.oracle (.setPrice (coin 0x50) 1000000000000000000)), []⟩,
  .call ⟨someone 8, someone 5, .act (.market (.set (.oracle (someone 9)))), []⟩]

/-- The pool of the town is settled at a rate of twice the loan, with a threshold of eleven tenths. It survives the dip. -/
theorem town_keeps_its_margin :
    ∃ o, (marketTown.play townDue).onPool (someone 5) (someone 8) 1 .settle [] = .ok o ∧
      (∃ health, (o.world.play townDip).askPool (someone 5) 1 .health = .ok (.number health) ∧ 11000 ≤ health) ∧
      ∀ caller payments,
        ∃ fault, (o.world.play townDip).onPool (someone 5) caller 1 .liquidate payments = .error fault := by
  have foreign : Foreign (someone 5) townDip := by
    unfold Foreign
    decide
  have state : (((marketTown.play townDue).market (someone 5)).pool? 1).map
      (fun p => (p.toTerms, p.lendSupply, p.borrowSupply)) = some (townTerms, 70, 120) := by decide +kernel
  obtain ⟨p, read, here⟩ := Option.map_eq_some_iff.1 state
  obtain ⟨terms, supplies⟩ := Prod.mk.inj here
  obtain ⟨offered, staked⟩ := Prod.mk.inj supplies
  have before : (marketTown.play townDue).prices ((marketTown.play townDue).market (someone 5)).oracle townTerms =
      .ok ⟨1000000000000000000, 1000000000000000000⟩ := by decide +kernel
  have after : ((marketTown.play townDue).onPool (someone 5) (someone 8) 1 .settle []).toOption.map
      (fun o => ((o.world.play townDip).prices ((o.world.play townDip).market (someone 5)).oracle townTerms).toOption) =
      some (some ⟨1500000000000000000, 1000000000000000000⟩) := by decide +kernel
  cases settled : (marketTown.play townDue).onPool (someone 5) (someone 8) 1 .settle [] with
  | error fault =>
    rw [settled] at after
    cases after
  | ok o =>
    rw [settled] at after
    obtain ⟨prices, known, _, _, _, rests, _⟩ := settlement_leaves_a_margin marketTown_launched read (by omega)
      (by omega) settled foreign
    rw [terms, before] at known
    cases known
    cases known' : (o.world.play townDip).prices ((o.world.play townDip).market (someone 5)).oracle townTerms with
    | error fault =>
      simp only [Except.toOption, Option.map_some, known'] at after
      cases after
    | ok prices' =>
      simp only [Except.toOption, Option.map_some, known', Option.some.injEq] at after
      subst after
      rw [terms] at rests
      obtain ⟨_, kept⟩ := rests _ known' (by decide) (by decide)
      obtain ⟨healthy, refused⟩ := kept (.inr (by decide))
      exact ⟨o, rfl, healthy, refused⟩

end TermLending.World
