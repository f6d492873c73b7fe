import TermLending.Proofs.Pool.Isolation
import TermLending.Proofs.World.Books
import TermLending.Proofs.World.Service

/-!
# Pools and users apart from each other

All pools of a market are kept in one storage, and an action rewrites the record of the pool that it names. The other
records stay, and of that one stays what other users have there. Settings are kept elsewhere, and a new pool comes after
all others.
-/

namespace TermLending

/-- What an action makes of the storage of the market that is asked for it: nothing, or what the market writes. -/
inductive Market.Writes (m : Market) (caller : Address) : Market.Action → Market → Prop where
  | nothing (action : Market.Action) : m.Writes caller action m
  | create {terms : Terms} {m' : Market} {id : Nat} {event : Event} (created : m.create terms = .ok (m', id, event)) :
      m.Writes caller (.create terms) m'
  | set {setting : Market.Setting} {m' : Market} {event : Event} (set : m.set setting = .ok (m', event)) :
      m.Writes caller (.set setting) m'
  | switch (paused : Bool) : m.Writes caller (.switch paused) { m with paused }
  | onPool {id : Nat} {action : Pool.Action} {p : Pool} {s : Scene} {t : Transition} (read : m.pool? id = some p)
      (called : s.caller = caller) (accepted : p.act s action = .ok t) :
      m.Writes caller (.onPool id action) (m.setPool id t.pool)

namespace Market.Writes

variable {m m' : Market} {caller : Address} {action : Pool.Action} {setting : Market.Setting} {terms : Terms}
  {paused : Bool} {id i : Nat} {p : Pool}

theorem elsewhere (written : m.Writes caller (.onPool id action) m') (other : i ≠ id) : m'.pool? i = m.pool? i := by
  cases written with
  | nothing => rfl
  | onPool read called accepted => rw [pool?_setPool read, if_neg other]

theorem isolated (written : m.Writes caller (.onPool id action) m') (read : m.pool? id = some p) :
    ∃ p', m'.pool? id = some p' ∧ p.Isolated caller action p' := by
  cases written with
  | nothing => exact ⟨p, read, .of_neither rfl rfl rfl rfl⟩
  | onPool found called accepted =>
    cases read.symm.trans found
    refine ⟨_, ?_, called ▸ Pool.act_isolated accepted⟩
    rw [pool?_setPool read, if_pos rfl]

theorem set_pools (written : m.Writes caller (.set setting) m') : m'.pools = m.pools := by
  cases written with
  | nothing => rfl
  | set set => exact (World.set_frame set).1

theorem switch_pools (written : m.Writes caller (.switch paused) m') : m'.pools = m.pools := by
  cases written <;> rfl

theorem create_keeps (written : m.Writes caller (.create terms) m') (read : m.pool? i = some p) :
    m'.pool? i = some p := by
  cases written with
  | nothing => exact read
  | create created =>
    obtain ⟨_, _, _, _, rfl⟩ := create_eq_ok created
    exact pool?_append _ read

end Market.Writes

namespace World

variable {w : World} {action : Market.Action} {o : Outcome}

theorem actOnMarket_writes {c : Context} (done : w.actOnMarket c action = .ok o) :
    (w.market c.self).Writes c.caller action (o.world.market c.self) := by
  cases actOnMarket_outcome done with
  | created approved created =>
    rw [setMarket_market]
    exact .create created
  | set approved set =>
    rw [setMarket_market]
    exact .set set
  | switched paused =>
    rw [setMarket_market]
    exact .switch paused
  | acted done =>
    obtain ⟨p, t, _, read, accepted, delivered⟩ := actOnPool_eq_ok done
    rw [market_of_delivered delivered]
    exact .onPool read rfl accepted

/-- The storage of the market at `self` once it has been asked for an action, granted or not. -/
def marketAfter (w : World) (self caller : Address) (payments : List Payment) (action : Market.Action) : Market :=
  (w.after (.call ⟨caller, self, .act (.market action), payments⟩)).market self

theorem marketAfter_writes (w : World) (self caller : Address) (payments : List Payment) (action : Market.Action) :
    (w.market self).Writes caller action (w.marketAfter self caller payments action) := by
  unfold marketAfter
  cases result : w.call ⟨caller, self, .act (.market action), payments⟩ with
  | error fault =>
    rw [after_call_error result]
    exact .nothing action
  | ok o =>
    obtain ⟨w₁, paid, _, done⟩ := call_act_eq_ok_iff.1 result
    have written := actOnMarket_writes done
    dsimp only at written
    rw [(transferAll_only paid).1.market] at written
    rw [after_call_ok result]
    exact written

/--
Whoever asks a market for whatever, and whatever state it is in: an action on a pool leaves all other pools as they are,
and in its pool all positions but the caller's own on the side that the action takes. Settlement and both endings take
none. No setting reaches any pool, and no new pool reaches an old one.
-/
theorem actions_reach_one_position (w : World) (self caller : Address) (payments : List Payment) :
    let m := w.market self
    let after := w.marketAfter self caller payments
    (∀ id action,
      (∀ i, i ≠ id → (after (.onPool id action)).pool? i = m.pool? i) ∧
      ∀ p, m.pool? id = some p → ∃ p', (after (.onPool id action)).pool? id = some p' ∧ p.Isolated caller action p') ∧
    (∀ setting, (after (.set setting)).pools = m.pools) ∧
    (∀ paused, (after (.switch paused)).pools = m.pools) ∧
    ∀ terms i p, m.pool? i = some p → (after (.create terms)).pool? i = some p := by
  intro m after
  have written := marketAfter_writes w self caller payments
  refine ⟨?_, ?_, ?_, ?_⟩
  · intro id action
    exact ⟨fun i other => (written _).elsewhere other, fun p read => (written _).isolated read⟩
  · exact fun setting => (written _).set_pools
  · exact fun paused => (written _).switch_pools
  · exact fun terms i p read => (written _).create_keeps read

/-- A second pool is created next to the one that has its deposits. -/
def townNeighbours : List Move := townDeposits ++ [
  .call ⟨someone 8, someone 5,
    .act (.market (.create { townTerms with lendReceipt := someone 11, borrowReceipt := someone 12 })), []⟩]

/-- A borrower pledges more to the first pool. The second one stays as it is, and so do the lenders of the first one. -/
theorem town_pledges_to_one_pool :
    let w := marketTown.play townNeighbours
    let m := w.market (someone 5)
    let m' := w.marketAfter (someone 5) (someone 7) [⟨coin 0x50, 30⟩] (.onPool 1 .depositBorrow)
    m.pools.length = 2 ∧ m'.pool? 2 = m.pool? 2 ∧ ∃ p p', m.pool? 1 = some p ∧ m'.pool? 1 = some p' ∧
      p'.lending = p.lending ∧ p'.lenders = p.lenders ∧ p.borrowSupply = 120 ∧ p'.borrowSupply = 150 := by
  intro w m m'
  obtain ⟨apart, _⟩ := actions_reach_one_position w (someone 5) (someone 7) [⟨coin 0x50, 30⟩]
  obtain ⟨others, reached⟩ := apart 1 .depositBorrow
  have pledged : (m.pool? 1).map (fun p => p.borrowSupply) = some 120 := by decide +kernel
  have pledged' : (m'.pool? 1).map (fun p => p.borrowSupply) = some 150 := by decide +kernel
  obtain ⟨p, read, supply⟩ := Option.map_eq_some_iff.1 pledged
  obtain ⟨p', read', isolated⟩ := reached p read
  obtain ⟨q, found, supply'⟩ := Option.map_eq_some_iff.1 pledged'
  cases read'.symm.trans found
  obtain ⟨lending, lenders⟩ := isolated.lenders (by decide)
  exact ⟨by decide +kernel, others 2 (by decide), p, p', read, read', lending, lenders, supply, supply'⟩

end World

end TermLending
