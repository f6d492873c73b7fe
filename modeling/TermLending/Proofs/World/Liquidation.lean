import TermLending.Proofs.Pool.Liquidation
import TermLending.Proofs.World.Pledges
import TermLending.Proofs.World.Storage

/-!
# Early closing

Anybody may close a pool that is ripe for it, and nobody any other. The queries tell beforehand whether that is so, and
what lenders will recover.
-/

namespace TermLending.World

variable {self user : Address} {w : World} {moves : List Move} {kept : Address → Prop} {p : Pool} {o : Outcome}
  {id : Nat} {query : Pool.Query} {reply : Reply} {report : HealthReport}

/-- What the market at `home` answers about pool `id`. -/
def askPool (w : World) (home : Address) (id : Nat) (query : Pool.Query) : Except Fault Reply :=
  w.ask home (.market (.onPool id query))

theorem askPool_eq_askMarket (market : w.kind self = some .market) (fits : id ≤ maxU32) (query : Pool.Query) :
    w.askPool self id query = w.askMarket self (.onPool id query) := by
  have words : checkWords (Query.market (.onPool id query)).words = .ok () :=
    checkWords_eq_ok_iff.2 (List.forall_mem_singleton.2 fits)
  unfold askPool
  rw [ask_eq market rfl, words]
  rfl

theorem askPool_eq (market : w.kind self = some .market) (fits : id ≤ maxU32)
    (read : (w.market self).pool? id = some p) (query : Pool.Query) :
    w.askPool self id query = p.answer (w.scene self .zero [] id p) query := by
  rw [askPool_eq_askMarket market fits]
  unfold askMarket
  dsimp only
  rw [read]

/-- The pool may be closed at the prices of the oracle that its market asks. -/
def Ripe (w : World) (home : Address) (p : Pool) : Prop := p.Ripe w.now (w.prices (w.market home).oracle p.toTerms)

theorem canLiquidate_iff (market : w.kind self = some .market) (sound : p.Sound) (fits : id ≤ maxU32)
    (read : (w.market self).pool? id = some p) :
    w.askPool self id .canLiquidate = .ok (.flag true) ↔ w.Ripe self p := by
  have decides := Pool.canLiquidate_iff_ripe (s := w.scene self .zero [] id p) sound
  rw [askPool_eq market fits read]
  show (do return Reply.flag (← p.canLiquidate (w.scene self .zero [] id p)) : Except Fault Reply) = _ ↔ _
  rw [bind_pure_eq_ok_iff]
  constructor
  · rintro ⟨b, answered, same⟩
    cases same
    exact decides.1 answered
  · intro ripe
    exact ⟨true, decides.2 ripe, rfl⟩

theorem canLiquidate_of_report (market : w.kind self = some .market) (fits : id ≤ maxU32)
    (read : (w.market self).pool? id = some p) (answered : w.askPool self id .healthReport = .ok (.healthReport report)) :
    w.askPool self id .canLiquidate = .ok (.flag report.liquidatable) := by
  rw [askPool_eq market fits read] at answered ⊢
  obtain ⟨r, told, same⟩ := bind_pure_eq_ok_iff.1 answered
  cases same
  exact bind_pure_eq_ok_iff.2 ⟨_, Pool.canLiquidate_of_healthReport told, rfl⟩

theorem liquidate_iff (market : w.kind self = some .market) (solvent : Solvent self w) (sound : p.Sound)
    (fits : id ≤ maxU32) (read : (w.market self).pool? id = some p) (user : Address) :
    (∃ o, w.onPool self user id .liquidate [] = .ok o) ↔ w.Ripe self p := by
  have decides := Pool.liquidate_iff_ripe (s := w.scene self user [] id p) sound
  rw [onPool_eq market fits rfl read (rfl : w.transferAll user self [] = .ok w) rfl]
  simp only [bind_eq_ok_iff]
  constructor
  · rintro ⟨o, t, accepted, _⟩
    exact decides.1 ⟨t, accepted⟩
  · intro ripe
    obtain ⟨t, accepted⟩ := decides.2 ripe
    obtain ⟨payout, _⟩ := Pool.liquidate_parts accepted
    have acted : p.act (w.scene self user [] id p) .liquidate = .ok t := accepted
    have terms := (Pool.act_later acted).terms
    have isOpen : p.phase.isTerminal = false := by
      rw [ripe.running]
      rfl
    have covered := pledge_covered solvent (Market.mem_of_pool? read) isOpen
    obtain ⟨o, concluded⟩ : ∃ o, w.conclude self id t = .ok o := conclude_pledge payout (by rw [terms]; omega)
    exact ⟨o, t, accepted, concluded⟩

/-- What a liquidation leaves: the caller's reward, and parts for both sides that are final. -/
theorem liquidate_leaves (market : w.kind self = some .market) (fits : id ≤ maxU32)
    (read : (w.market self).pool? id = some p) (closed : w.onPool self user id .liquidate [] = .ok o) :
    let reward := p.borrowSupply * 500 / 10000
    (∀ a T, o.world.balance a T + (if a = self ∧ T = p.pledgeToken then reward else 0) =
      w.balance a T + (if a = user ∧ T = p.pledgeToken then reward else 0)) ∧
    ∃ p', (o.world.market self).pool? id = some p' ∧ p'.phase = .liquidated ∧
      p'.recoveryLend = p.lendRecovery ∧ reward + p'.recoveryLend + p'.recoveryBorrow = p.borrowSupply ∧
      o.world.kind self = some .market := by
  intro reward
  rw [onPool_eq market fits rfl read (rfl : w.transferAll user self [] = .ok w) rfl] at closed
  obtain ⟨t, accepted, concluded⟩ := bind_eq_ok_iff.1 closed
  obtain ⟨payout, phase, projected, divided⟩ := Pool.liquidate_parts accepted
  have terms := (Pool.act_later accepted).terms
  have pledgeToken : t.pool.pledgeToken = p.pledgeToken := congrArg Terms.pledgeToken terms
  have delivered := delivered_of_conclude concluded
  refine ⟨?_, t.pool, ?_, phase, projected, divided, ?_⟩
  · rw [← pledgeToken]
    exact balance_of_conclude_pledge payout concluded
  · rw [market_of_delivered delivered, Market.pool?_setPool read]
    exact if_pos rfl
  · rw [delivered.only.kind]
    exact market

theorem lendRecovery_of_liquidated (market : w.kind self = some .market) (fits : id ≤ maxU32)
    (read : (w.market self).pool? id = some p) (liquidated : p.phase = .liquidated) (foreign : Foreign self moves) :
    (w.play moves).askPool self id .lendRecovery = .ok (.number p.recoveryLend) := by
  obtain ⟨p', read', lasting⟩ := play_later market foreign read
  obtain ⟨phase, amounts⟩ := lasting.ended (by rw [liquidated]; rfl)
  have kind : (w.play moves).kind self = some .market := by rw [play_kind (by simp [market]), market]
  have recovery : p'.lendRecovery = p.recoveryLend := by
    unfold Pool.lendRecovery
    rw [if_pos (phase.trans liquidated)]
    exact congrArg Amounts.recoveryLend amounts
  rw [askPool_eq kind fits read', ← recovery]
  rfl

/--
A pool can be closed early exactly when it is ripe, whoever asks for it; this is what the queries say. The caller gets a
twentieth of the pledge and nobody else anything, lenders keep what was projected for them, for good, and borrowers all
the rest.
-/
theorem liquidation_is_exact (launched : Launched self w) (foreign : Foreign self moves)
    (unused : ∀ p ∈ ((w.play moves).market self).pools, w.lendUnits p = 0 ∧ w.borrowUnits p = 0)
    (alone : ∀ p ∈ ((w.play moves).market self).pools,
      w.Throughout (OnlyMinter self p.lendReceipt) moves ∧ w.Throughout (OnlyMinter self p.borrowReceipt) moves)
    (read : ((w.play moves).market self).pool? id = some p) (fits : id ≤ maxU32) (user : Address) :
    let w' := w.play moves
    let reward := p.borrowSupply * 500 / 10000
    ((∃ o, w'.onPool self user id .liquidate [] = .ok o) ↔ w'.Ripe self p) ∧
    (w'.askPool self id .canLiquidate = .ok (.flag true) ↔ w'.Ripe self p) ∧
    (∀ report, w'.askPool self id .healthReport = .ok (.healthReport report) →
      w'.askPool self id .canLiquidate = .ok (.flag report.liquidatable)) ∧
    ∀ o, w'.onPool self user id .liquidate [] = .ok o →
      (∀ a T, o.world.balance a T + (if a = self ∧ T = p.pledgeToken then reward else 0) =
        w'.balance a T + (if a = user ∧ T = p.pledgeToken then reward else 0)) ∧
      ∃ p', (o.world.market self).pool? id = some p' ∧ p'.phase = .liquidated ∧
        reward + p'.recoveryLend + p'.recoveryBorrow = p.borrowSupply ∧
        w'.askPool self id .lendRecovery = .ok (.number p'.recoveryLend) ∧
        ∀ later, Foreign self later →
          (o.world.play later).askPool self id .lendRecovery = .ok (.number p'.recoveryLend) := by
  intro w' reward
  obtain ⟨circulation, solvent⟩ := play_solvent launched foreign unused alone
  have market := circulation.market
  have sound := (play_market_sound (launched_market launched).1 (launched_sound launched) moves).2.pools p
    (Market.mem_of_pool? read)
  refine ⟨liquidate_iff market solvent sound fits read user, canLiquidate_iff market sound fits read, ?_, ?_⟩
  · intro report answered
    exact canLiquidate_of_report market fits read answered
  · intro o closed
    obtain ⟨balances, p', read', liquidated, projected, divided, market'⟩ := liquidate_leaves market fits read closed
    refine ⟨balances, p', read', liquidated, divided, ?_, ?_⟩
    · rw [askPool_eq market fits read, projected]
      rfl
    · intro later others
      exact lendRecovery_of_liquidated market' fits read' liquidated others

/-- The loan of the town is settled, and then the settle token becomes three times as dear. -/
def townCrash : List Move := townDue ++ [
  request 8 .settle [],
  .deploy (someone 8) (someone 9) (.oracle (someone 1)),
  .call ⟨someone 8, someone 9, .act (.oracle (.setPrice (coin 0x53) 3000000000000000000)), []⟩,
  .call ⟨someone 8, someone 9, .act (.oracle (.setPrice (coin 0x50) 1000000000000000000)), []⟩,
  .call ⟨someone 8, someone 5, .act (.market (.set (.oracle (someone 9)))), []⟩]

/-- Anybody gets a twentieth of the 120 pledged for closing the pool of the town. -/
theorem town_closes_early :
    ∃ p o, ((marketTown.play townCrash).market (someone 5)).pool? 1 = some p ∧
      (marketTown.play townCrash).Ripe (someone 5) p ∧
      (marketTown.play townCrash).onPool (someone 5) (someone 9) 1 .liquidate [] = .ok o ∧
      o.world.balance (someone 9) (coin 0x50) = 6 := by
  have foreign : Foreign (someone 5) townCrash := by
    unfold Foreign
    decide
  have there : (((marketTown.play townCrash).market (someone 5)).pool? 1).isSome = true := by decide +kernel
  obtain ⟨p, read⟩ := Option.isSome_iff_exists.1 there
  have paid : ((marketTown.play townCrash).onPool (someone 5) (someone 9) 1 .liquidate []).toOption.map
      (fun o => o.world.balance (someone 9) (coin 0x50)) = some 6 := by decide +kernel
  obtain ⟨decides, _⟩ := liquidation_is_exact marketTown_launched foreign (by decide +kernel) (by decide +kernel) read
    (by decide) (someone 9)
  cases closed : (marketTown.play townCrash).onPool (someone 5) (someone 9) 1 .liquidate [] with
  | error fault =>
    rw [closed] at paid
    cases paid
  | ok o =>
    rw [closed] at paid
    exact ⟨p, o, read, decides.1 ⟨o, closed⟩, rfl, Option.some.inj paid⟩

end TermLending.World
