import TermLending.Proofs.Pool.Maturity
import TermLending.Proofs.World.Matching

/-!
# Maturity

At its end a pool gives its whole pledge away: to lenders the worth of what its query says is due, to borrowers the rest,
and to the fee address what is cut from both.
-/

namespace TermLending.World

open Pool

variable {self user : Address} {w : World} {p : Pool} {t : Transition} {o : Outcome} {id part : Nat}
  {payments : List Payment}

/-- The query tells the same amount due that maturity computes with. -/
theorem entitled_by_query (market : w.kind self = some .market) (fits : id ≤ maxU32)
    (read : (w.market self).pool? id = some p) (lent : 0 < p.matchedLend)
    (entitled : p.EntitledTo (w.scene self user payments id p) part) :
    ∃ prices due, w.prices (w.market self).oracle p.toTerms = .ok prices ∧ 0 < prices.settle ∧ 0 < prices.pledge ∧
      w.askPool self id .due = .ok (.number due) ∧
      part = min (due * prices.settle / prices.pledge) p.borrowSupply := by
  unfold EntitledTo at entitled
  rw [if_neg (Nat.ne_of_gt lent)] at entitled
  obtain ⟨prices, due, known, told, share⟩ := entitled
  obtain ⟨priced, settle, pledge⟩ := Scene.positivePrices_eq_ok_iff.1 known
  refine ⟨prices, due, priced, settle, pledge, ?_, share⟩
  rw [askPool_eq market fits read]
  exact bind_pure_eq_ok_iff.2 ⟨due, told, rfl⟩

/--
Maturity divides the pledge between both sides and the fee address. Before fees, lenders get the worth of what the query
answers is due, at most the whole pledge, and nothing if nothing was lent; borrowers get the rest. Besides what the caller
paid, the fees are all that moves.
-/
theorem maturity_conserves_the_pledge (read : (w.market self).pool? id = some p)
    (finished : w.onPool self user id .finish payments = .ok o) :
    let fees := (w.market self).fees
    let feeAddress := (w.market self).feeAddress
    ∃ w₁ p' part, w.transferAll user self payments = .ok w₁ ∧ (o.world.market self).pool? id = some p' ∧
      (p.matchedLend = 0 → part = 0) ∧
      (0 < p.matchedLend →
        ∃ prices due, w.prices (w.market self).oracle p.toTerms = .ok prices ∧ 0 < prices.settle ∧ 0 < prices.pledge ∧
          w.askPool self id .due = .ok (.number due) ∧
          part = min (due * prices.settle / prices.pledge) p.borrowSupply) ∧
      p'.finishLend = part - part * fees.lend / 10000 ∧
      p'.finishBorrow = (p.borrowSupply - part) - (p.borrowSupply - part) * fees.borrow / 10000 ∧
      p'.finishLend + p'.finishBorrow ≤ p.borrowSupply ∧
      let cut := p.borrowSupply - p'.finishLend - p'.finishBorrow
      ∀ a T, o.world.balance a T + (if a = self ∧ T = p.pledgeToken then cut else 0) =
        w₁.balance a T + (if a = feeAddress ∧ T = p.pledgeToken then cut else 0) := by
  intro fees feeAddress
  obtain ⟨market, fits, w₁, t, paid, accepted, concluded⟩ := concluded_of_onPool read finished
  obtain ⟨payout, within, part, entitled, lend, borrow⟩ := finish_divides accepted
  refine ⟨w₁, t.pool, part, paid, stored_of_conclude read paid concluded, ?_, ?_, lend, borrow, within, ?_⟩
  · intro none
    unfold EntitledTo at entitled
    rwa [if_pos none] at entitled
  · intro lent
    exact entitled_by_query market fits read lent entitled
  · have pledgeToken : t.pool.pledgeToken = p.pledgeToken := congrArg Terms.pledgeToken (act_later accepted).terms
    rw [← pledgeToken]
    exact balance_of_conclude_pledge payout concluded

/-- A tenth is cut from the lenders' part of the pledge, and a twentieth from the borrowers'. -/
def townMature : List Move :=
  .call ⟨someone 8, someone 5, .act (.market (.set (.fees ⟨1000, 500⟩))), []⟩ :: townDue ++
    [request 8 .settle [], .wait 20]

/-- Lenders of the town are owed a half of the 120 pledged. The fees are six and three. -/
theorem town_matures :
    ∃ o p', (marketTown.play townMature).onPool (someone 5) (someone 8) 1 .finish [] = .ok o ∧
      (o.world.market (someone 5)).pool? 1 = some p' ∧ p'.finishLend = 54 ∧ p'.finishBorrow = 57 ∧
      o.world.balance (someone 8) (coin 0x50) = (marketTown.play townMature).balance (someone 8) (coin 0x50) + 9 := by
  have state : (((marketTown.play townMature).market (someone 5)).pool? 1).map
      (fun p => (p.pledgeToken, p.borrowSupply)) = some (coin 0x50, 120) := by decide +kernel
  have feeAddress : ((marketTown.play townMature).market (someone 5)).feeAddress = someone 8 := by decide +kernel
  have divided : ((marketTown.play townMature).onPool (someone 5) (someone 8) 1 .finish []).toOption.map
      (fun o => ((o.world.market (someone 5)).pool? 1).map fun p => (p.finishLend, p.finishBorrow)) =
      some (some (54, 57)) := by decide +kernel
  obtain ⟨p, read, terms⟩ := Option.map_eq_some_iff.1 state
  obtain ⟨pledgeToken, staked⟩ := Prod.mk.inj terms
  cases finished : (marketTown.play townMature).onPool (someone 5) (someone 8) 1 .finish [] with
  | error fault =>
    rw [finished] at divided
    cases divided
  | ok o =>
    obtain ⟨w₁, p', _, paid, stored, _, _, _, _, _, moved⟩ := maturity_conserves_the_pledge read finished
    rw [finished] at divided
    obtain ⟨q, same, parts⟩ := Option.map_eq_some_iff.1 (Option.some.inj divided)
    rw [stored] at same
    cases same
    obtain ⟨lend, borrow⟩ := Prod.mk.inj parts
    cases paid
    have fees := moved (someone 8) (coin 0x50)
    rw [feeAddress, pledgeToken, staked, lend, borrow, if_neg (by decide), if_pos (by decide)] at fees
    exact ⟨o, p', rfl, stored, lend, borrow, fees⟩

end TermLending.World
