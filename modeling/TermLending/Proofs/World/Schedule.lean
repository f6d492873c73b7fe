import TermLending.Proofs.Pool.Schedule
import TermLending.Proofs.World.Pledges
import TermLending.Proofs.World.Storage

/-!
# Settlement and maturity in time

Nothing but the terms of a pool can keep an approved caller from settling it, or from finishing it, once its time has
come and its tokens have prices. The terms can: a market accepts rates, and lengths of the term, that the pool cannot
compute with.
-/

namespace TermLending.World

open Pool

variable {self user : Address} {w : World} {m : Move} {moves : List Move} {p : Pool} {id : Nat} {prices : Prices}

/-! ### Approved calls -/

/-- An approved caller asks a pool for its next step, at known prices. -/
structure Called (home user : Address) (p : Pool) (prices : Prices) (w : World) : Prop where
  approved : w.requireApproved (w.market home).registry user home = .ok ()
  priced : w.prices (w.market home).oracle p.toTerms = .ok prices
  positive : 0 < prices.settle ∧ 0 < prices.pledge

theorem Called.positivePrices (called : Called self user p prices w) (attached : List Payment) :
    (w.scene self user attached id p).positivePrices = .ok prices :=
  Scene.positivePrices_eq_ok_iff.2 ⟨called.priced, called.positive⟩

theorem onPool_settle_limited (market : w.kind self = some .market) (sound : p.Sound) (fits : id ≤ maxU32)
    (read : (w.market self).pool? id = some p) (called : Called self user p prices w) (matching : p.phase = .matching)
    (due : p.settleTime ≤ w.now) : LimitedTo p.Settleable (w.onPool self user id .settle []) := by
  have passed : w.gate Pool.Action.settle.isGated (w.market self).registry user self = .ok () := called.approved
  rw [onPool_eq_of_gate market fits passed read (rfl : w.transferAll user self [] = .ok w) rfl]
  refine (Pool.settle_limited sound matching due (called.positivePrices [])).total fun t accepted => ?_
  obtain ⟨_, _, _, _, rfl⟩ := settle_eq_ok_iff.1 accepted
  exact conclude_pledge rfl (Nat.zero_le _)

theorem onPool_finish_limited (market : w.kind self = some .market) (solvent : Solvent self w) (sound : p.Sound)
    (fees : (w.market self).fees.lend ≤ bpsWhole ∧ (w.market self).fees.borrow ≤ bpsWhole) (fits : id ≤ maxU32)
    (read : (w.market self).pool? id = some p) (called : Called self user p prices w) (running : p.phase = .running)
    (due : p.endTime ≤ w.now) : LimitedTo p.Finishable (w.onPool self user id .finish []) := by
  have passed : w.gate Pool.Action.finish.isGated (w.market self).registry user self = .ok () := called.approved
  rw [onPool_eq_of_gate market fits passed read (rfl : w.transferAll user self [] = .ok w) rfl]
  refine (Pool.finish_limited sound fees running due (called.positivePrices [])).total fun t accepted => ?_
  obtain ⟨taken, payout, within⟩ := finish_payout accepted
  have covered := pledge_covered solvent (Market.mem_of_pool? read) (by rw [running]; rfl)
  have acted : p.act (w.scene self user [] id p) .finish = .ok t := accepted
  have terms := (Pool.act_later acted).terms
  exact conclude_pledge payout (by rw [terms]; omega)

/-! ### Stuck pools -/

theorem stuck_after (market : w.kind self = some .market) (read : (w.market self).pool? id = some p)
    (stuck : p.Stuck w.now) (m : Move) : ((w.after m).market self).pool? id = some p := by
  refine pool_at_rest market read fun caller action works => ?_
  obtain ⟨s, t, now, _, accepted, _⟩ := works_act read works
  have still : p.Stuck s.now := by rwa [now]
  exact still.refuses accepted

/-- Only if time ran back could anything happen to a pool that is stuck. -/
theorem play_stuck (market : w.kind self = some .market) (read : (w.market self).pool? id = some p)
    (stuck : p.Stuck w.now) (onward : w.Throughout (fun v => p.settleTime ≤ v.now) moves) :
    ((w.play moves).market self).pool? id = some p := by
  induction moves generalizing w with
  | nil => exact read
  | cons m rest ih =>
    refine ih ?_ (stuck_after market read stuck m) ⟨stuck.matching, onward.2.start, stuck.unfit⟩ onward.2
    rw [after_kind (by simp [market]), market]

/--
A pool whose time has come, at known prices, is settled or finished by an approved caller exactly if its terms fit the
arithmetic. Where it cannot be settled its deposits are locked, unless time runs back.
-/
theorem schedule_is_kept (launched : Launched self w) (foreign : Foreign self moves)
    (unused : ∀ p ∈ ((w.play moves).market self).pools, w.lendUnits p = 0 ∧ w.borrowUnits p = 0)
    (alone : ∀ p ∈ ((w.play moves).market self).pools,
      w.Throughout (OnlyMinter self p.lendReceipt) moves ∧ w.Throughout (OnlyMinter self p.borrowReceipt) moves)
    (read : ((w.play moves).market self).pool? id = some p) (fits : id ≤ maxU32)
    (called : Called self user p prices (w.play moves)) :
    let w' := w.play moves
    (p.phase = .matching → p.settleTime ≤ w'.now → LimitedTo p.Settleable (w'.onPool self user id .settle [])) ∧
    (p.phase = .running → p.endTime ≤ w'.now → LimitedTo p.Finishable (w'.onPool self user id .finish [])) ∧
    (p.phase = .matching → p.settleTime ≤ w'.now → ¬p.Settleable →
      ∀ later, w'.Throughout (fun v => p.settleTime ≤ v.now) later →
        ((w'.play later).market self).pool? id = some p) := by
  intro w'
  obtain ⟨circulation, solvent⟩ := play_solvent launched foreign unused alone
  obtain ⟨market, sound⟩ := play_market_sound (launched_market launched).1 (launched_sound launched) moves
  have orderly := sound.pools p (Market.mem_of_pool? read)
  refine ⟨?_, ?_, ?_⟩
  · exact onPool_settle_limited market orderly fits read called
  · exact onPool_finish_limited market solvent orderly sound.fees fits read called
  · intro matching due unfit later onward
    exact play_stuck market read ⟨matching, due, unfit⟩ onward

theorem town_settles_when_due : ∃ o, (marketTown.play townDue).onPool (someone 5) (someone 8) 1 .settle [] = .ok o := by
  have foreign : Foreign (someone 5) townDue := by
    unfold Foreign
    decide
  have state : (((marketTown.play townDue).market (someone 5)).pool? 1).map (fun p => (p.toTerms, p.phase)) =
      some (townTerms, .matching) := by decide +kernel
  obtain ⟨p, read, here⟩ := Option.map_eq_some_iff.1 state
  obtain ⟨terms, matching⟩ := Prod.mk.inj here
  have called : Called (someone 5) (someone 8) p ⟨1000000000000000000, 1000000000000000000⟩ (marketTown.play townDue) := by
    refine ⟨by decide +kernel, ?_, by decide⟩
    rw [terms]
    decide +kernel
  have due : p.settleTime ≤ (marketTown.play townDue).now := by
    rw [terms]
    decide +kernel
  have rate : p.mortgageRate ≤ maxI64 := by
    rw [terms]
    decide
  have settles := (schedule_is_kept marketTown_launched foreign (by decide +kernel) (by decide +kernel) read (by decide)
    called).1 matching due
  exact settles.granted (.inr (.inr rate))

/-- The mortgage rate is the first number beyond the signed words. -/
def steepTerms : Terms := { townTerms with mortgageRate := 9223372036854775808 }

def steepDue : List Move := [
  .call ⟨someone 8, someone 5, .act (.market (.create steepTerms)), []⟩,
  request 6 .depositLend [⟨coin 0x53, 100⟩],
  request 7 .depositBorrow [⟨coin 0x50, 120⟩],
  .wait 10]

/-- A market accepts terms at which a pool with deposits on both sides can never be settled. -/
theorem accepted_pool_gets_stuck :
    Launched (someone 5) marketTown ∧ Foreign (someone 5) steepDue ∧
    (∀ p ∈ ((marketTown.play steepDue).market (someone 5)).pools,
      marketTown.lendUnits p = 0 ∧ marketTown.borrowUnits p = 0 ∧
        marketTown.Throughout (OnlyMinter (someone 5) p.lendReceipt) steepDue ∧
        marketTown.Throughout (OnlyMinter (someone 5) p.borrowReceipt) steepDue) ∧
    ∃ p, ((marketTown.play steepDue).market (someone 5)).pool? 1 = some p ∧
      Called (someone 5) (someone 8) p ⟨1000000000000000000, 1000000000000000000⟩ (marketTown.play steepDue) ∧
      p.phase = .matching ∧ p.settleTime ≤ (marketTown.play steepDue).now ∧
      (marketTown.play steepDue).onPool (someone 5) (someone 8) 1 .settle [] = .error .outsideSigned64 := by
  have foreign : Foreign (someone 5) steepDue := by
    unfold Foreign
    decide
  have state : (((marketTown.play steepDue).market (someone 5)).pool? 1).map (fun p => (p.toTerms, p.phase)) =
      some (steepTerms, .matching) := by decide +kernel
  obtain ⟨p, read, here⟩ := Option.map_eq_some_iff.1 state
  obtain ⟨terms, matching⟩ := Prod.mk.inj here
  refine ⟨marketTown_launched, foreign, by decide +kernel, p, read, ⟨by decide +kernel, ?_, by decide⟩, matching, ?_, ?_⟩
  · rw [terms]
    decide +kernel
  · rw [terms]
    decide +kernel
  · exact fault?_eq_some_iff.1 (by decide +kernel)

end TermLending.World
