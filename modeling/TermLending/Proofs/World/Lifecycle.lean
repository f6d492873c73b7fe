import TermLending.Proofs.Pool.Lifecycle
import TermLending.Proofs.World.Isolation

/-!
# The lives of the pools of a market

A pool keeps its number and its terms for good. Whatever happens in the world, it changes only in a call that it carries
out, and then as one step of its life.
-/

namespace TermLending.World

open Pool

variable {self caller : Address} {w : World} {m : Move} {moves : List Move} {id : Nat} {p p' : Pool}
  {action : Pool.Action}

/-- Pool `id` of the market at `self` carries out `action` for `caller`. -/
def Works (self : Address) (id : Nat) (w : World) (m : Move) (caller : Address) (action : Pool.Action) : Prop :=
  m.CarriesOut w caller self (.market (.onPool id action))

/-- What a move may change in a pool, and by what it changes. -/
structure Progress (a : Address) (id : Nat) (w : World) (m : Move) (p p' : Pool) : Prop where
  terms : p'.toTerms = p.toTerms
  phase : p'.phase = p.phase ∨ ∃ caller action, Works a id w m caller action ∧ p.Passage w.now action p'.phase ∧
    (action = .liquidate ∨ w.requireApproved (w.market a).registry caller a = .ok ())
  deposits : p.phase = .matching ∧ w.now < p.settleTime ∨ p.SameDeposits p'
  matched : (∃ caller, Works a id w m caller .settle) ∨
    p'.matchedLend = p.matchedLend ∧ p'.matchedBorrow = p.matchedBorrow
  finish : (∃ caller, Works a id w m caller .finish) ∨
    p'.finishLend = p.finishLend ∧ p'.finishBorrow = p.finishBorrow
  recovery : (∃ caller, Works a id w m caller .liquidate) ∨
    p'.recoveryLend = p.recoveryLend ∧ p'.recoveryBorrow = p.recoveryBorrow
  lend : ∀ u, LendMarked (Works a id w m u) (p.lendPosition u) (p'.lendPosition u)
  borrow : ∀ u, BorrowMarked (Works a id w m u) (p.borrowPosition u) (p'.borrowPosition u)

/-! ### Pools at work -/

/-- A move has a pool do one thing at most. -/
theorem works_eq (works : Works self id w m caller action) (u : Address) :
    Works self id w m u = fun a => u = caller ∧ action = a := by
  funext a
  apply propext
  constructor
  · intro other
    obtain ⟨rfl, _, same⟩ := works.unique other
    cases same
    exact ⟨rfl, rfl⟩
  · rintro ⟨rfl, rfl⟩
    exact works

/-- Work is an accepted action of the pool, which is stored as that leaves it. -/
theorem works_act (read : (w.market self).pool? id = some p) (works : Works self id w m caller action) :
    ∃ s t, s.now = w.now ∧ s.caller = caller ∧ p.act s action = .ok t ∧
      ((w.after m).market self).pool? id = some t.pool ∧
      w.gate action.isGated (w.market self).registry caller self = .ok () := by
  obtain ⟨payments, w₁, o, only, _, done, after⟩ := carriesOut_elim works
  obtain ⟨q, t, gated, found, accepted, delivered⟩ := actOnPool_eq_ok done
  dsimp only at gated found accepted delivered
  rw [only.market] at gated found delivered
  rw [read] at found
  cases found
  refine ⟨_, t, only.now, rfl, accepted, ?_, ?_⟩
  · rw [after, market_of_delivered delivered, Market.pool?_setPool read]
    exact if_pos rfl
  · unfold gate at gated ⊢
    rwa [requireApproved_of_only only] at gated

/-- What a move makes of the storage of a market: nothing, or what the code of the market writes. -/
inductive Rewritten (self : Address) (w : World) (m : Move) : Market → Prop where
  | idle : Rewritten self w m (w.market self)
  | created {terms : Terms} {market : Market} {id : Nat} {event : Event}
      (created : (w.market self).create terms = .ok (market, id, event)) : Rewritten self w m market
  | set {setting : Market.Setting} {market : Market} {event : Event}
      (set : (w.market self).set setting = .ok (market, event)) : Rewritten self w m market
  | switched (paused : Bool) : Rewritten self w m { w.market self with paused }
  | acted {caller : Address} {id : Nat} {action : Pool.Action} {p : Pool} {s : Scene} {t : Transition}
      (works : Works self id w m caller action) (read : (w.market self).pool? id = some p)
      (accepted : p.act s action = .ok t) : Rewritten self w m ((w.market self).setPool id t.pool)

theorem market_rewritten (market : w.kind self = some .market) (m : Move) :
    Rewritten self w m ((w.after m).market self) := by
  have there : w.kind self ≠ none := by simp [market]
  rcases untouched_or_carriesOut there m with ⟨untouched, _⟩ | ⟨caller, action, carries⟩
  · rw [untouched.market]
    exact .idle
  · obtain ⟨payments, w₁, o, only, accepted, done, after⟩ := carriesOut_elim carries
    obtain ⟨request, rfl⟩ := market_action_of_accept (only.kind ▸ market) accepted
    have written := actOnMarket_writes done
    dsimp only at written
    rw [only.market] at written
    rw [after]
    generalize o.world.market self = stored at written ⊢
    cases written with
    | nothing => exact .idle
    | create created => exact .created created
    | set set => exact .set set
    | switch paused => exact .switched paused
    | onPool read called transition => exact .acted carries read transition

/-- A pool that does no work is left as it is. -/
theorem pool_at_rest (market : w.kind self = some .market) (read : (w.market self).pool? id = some p)
    (rest : ∀ caller action, ¬Works self id w m caller action) : ((w.after m).market self).pool? id = some p := by
  have rewritten := market_rewritten market m
  generalize (w.after m).market self = stored at rewritten ⊢
  cases rewritten with
  | idle => exact read
  | created created =>
    obtain ⟨_, _, _, _, rfl⟩ := Market.create_eq_ok created
    exact Market.pool?_append _ read
  | set set =>
    rw [Market.pool?_of_pools (set_frame set).1]
    exact read
  | switched paused => exact (Market.pool?_of_pools rfl id).trans read
  | acted works found accepted =>
    rw [Market.pool?_setPool found, if_neg]
    · exact read
    · rintro rfl
      exact rest _ _ works

theorem Progress.of_rest (p : Pool) (rest : ∀ caller action, ¬Works self id w m caller action) :
    Progress self id w m p p where
  terms := rfl
  phase := .inl rfl
  deposits := .inr (.refl p)
  matched := .inr ⟨rfl, rfl⟩
  finish := .inr ⟨rfl, rfl⟩
  recovery := .inr ⟨rfl, rfl⟩
  lend u := .of_flags (fun a works => absurd works (rest u a)) rfl rfl rfl
  borrow u := .of_flags (fun a works => absurd works (rest u a)) rfl rfl

theorem Progress.of_step (step : p.Step w.now caller action p') (terms : p'.toTerms = p.toTerms)
    (phase : p'.phase = p.phase ∨ p.Passage w.now action p'.phase) (works : Works self id w m caller action)
    (gated : w.gate action.isGated (w.market self).registry caller self = .ok ()) : Progress self id w m p p' where
  terms := terms
  phase := by
    rcases phase with same | passage
    · exact .inl same
    · refine .inr ⟨caller, action, works, passage, ?_⟩
      rcases passage.cause with closed | ⟨liquidation, _⟩
      · rw [closed] at gated
        exact .inr gated
      · exact .inl liquidation
  deposits := step.deposits
  matched := by
    rcases step.matched with rfl | same
    · exact .inl ⟨caller, works⟩
    · exact .inr same
  finish := by
    rcases step.finish with rfl | same
    · exact .inl ⟨caller, works⟩
    · exact .inr same
  recovery := by
    rcases step.recovery with rfl | same
    · exact .inl ⟨caller, works⟩
    · exact .inr same
  lend u := by
    rw [works_eq works u]
    exact step.lend u
  borrow u := by
    rw [works_eq works u]
    exact step.borrow u

theorem pool_progress (market : w.kind self = some .market) (shape : p.Shape)
    (read : (w.market self).pool? id = some p) :
    ∃ p', ((w.after m).market self).pool? id = some p' ∧ Progress self id w m p p' := by
  by_cases rest : ∀ caller action, ¬Works self id w m caller action
  · exact ⟨p, pool_at_rest market read rest, .of_rest p rest⟩
  · simp only [not_forall, not_not] at rest
    obtain ⟨caller, action, works⟩ := rest
    obtain ⟨s, t, now, rfl, accepted, read', gated⟩ := works_act read works
    have step := act_step shape accepted
    have phase := act_passage accepted
    rw [now] at step phase
    exact ⟨t.pool, read', .of_step step (act_later accepted).terms phase works gated⟩

/-! ### Along a run -/

/--
A pool is there for good under its number, which no other pool ever has: its terms stay, and no other pool has them. An
ending is final. Every single move is a step of the pool's life.
-/
theorem pool_lives_on (launched : Launched self w) (foreign : Foreign self moves)
    (read : ((w.play moves).market self).pool? id = some p) :
    (∀ later, Foreign self later →
      ∃ p', ((w.play (moves ++ later)).market self).pool? id = some p' ∧ p'.toTerms = p.toTerms ∧
        (p.phase.isTerminal = true → p'.phase = p.phase) ∧
        ∀ i q, ((w.play (moves ++ later)).market self).pool? i = some q → q.toTerms = p.toTerms → i = id) ∧
    ∀ m, ∃ p', (((w.play moves).after m).market self).pool? id = some p' ∧ Progress self id (w.play moves) m p p' := by
  have start := launched_books launched
  obtain ⟨market, books⟩ := play_books (launched_market launched).1 start foreign
  constructor
  · intro later foreign'
    obtain ⟨_, books'⟩ := play_books market books foreign'
    obtain ⟨p', read', lasting⟩ := play_later market foreign' read
    rw [play_append]
    refine ⟨p', read', lasting.terms, fun ended => (lasting.ended ended).1, ?_⟩
    intro i q found same
    -- The terms name the receipt contracts, and these serve one pool.
    have shared : q.lendReceipt = p'.lendReceipt := congrArg Terms.lendReceipt (same.trans lasting.terms.symm)
    apply books'.pool_of_contract read' found (r := p'.lendReceipt)
    · exact Market.mem_contracts_iff.2 (.inl rfl)
    · exact Market.mem_contracts_iff.2 (.inl shared.symm)
  · intro m
    exact pool_progress market (books.shape p (Market.mem_of_pool? read)) read

def townDue : List Move := townDeposits ++ [.wait 10]

/-- The town's loan is settled when it is due, by an approved caller. -/
theorem town_lives_on :
    ∃ p p', ((marketTown.play townDue).market (someone 5)).pool? 1 = some p ∧
      (((marketTown.play townDue).after (request 8 .settle [])).market (someone 5)).pool? 1 = some p' ∧
      p.phase = .matching ∧ p'.phase = .running ∧
      Progress (someone 5) 1 (marketTown.play townDue) (request 8 .settle []) p p' := by
  have foreign : Foreign (someone 5) townDue := by
    unfold Foreign
    decide
  have phase : (((marketTown.play townDue).market (someone 5)).pool? 1).map (fun p => p.phase) = some .matching := by
    decide +kernel
  have phase' : ((((marketTown.play townDue).after (request 8 .settle [])).market (someone 5)).pool? 1).map
      (fun p => p.phase) = some .running := by decide +kernel
  obtain ⟨p, read, matching⟩ := Option.map_eq_some_iff.1 phase
  obtain ⟨p', read', progress⟩ := (pool_lives_on marketTown_launched foreign read).2 (request 8 .settle [])
  obtain ⟨q, found, running⟩ := Option.map_eq_some_iff.1 phase'
  cases read'.symm.trans found
  exact ⟨p, p', read, read', matching, running, progress⟩

/-! ### What the phase says -/

/-- What every phase says of the amounts of a pool, and of all positions in it. -/
theorem records_fit_the_phase (launched : Launched self w) (foreign : Foreign self moves) :
    ∀ p ∈ ((w.play moves).market self).pools,
      (p.phase = .matching → p.toAmounts = {} ∧ ∀ u,
        p.lendPosition u = { stake := (p.lendPosition u).stake } ∧
        p.borrowPosition u = { pledge := (p.borrowPosition u).pledge }) ∧
      (p.phase.isSettled = true → p.matchedLend ≤ p.lendSupply ∧ p.matchedBorrow ≤ p.borrowSupply ∧
        (0 < p.matchedLend → 0 < p.lendSupply ∧ 0 < p.borrowSupply)) ∧
      (p.phase = .running →
        p.finishLend = 0 ∧ p.finishBorrow = 0 ∧ p.recoveryLend = 0 ∧ p.recoveryBorrow = 0) ∧
      (p.phase = .finished → p.recoveryLend = 0 ∧ p.recoveryBorrow = 0 ∧
        p.finishLend + p.finishBorrow ≤ p.borrowSupply ∧ (p.matchedLend = 0 → p.finishLend = 0)) ∧
      (p.phase = .liquidated → 0 < p.matchedLend ∧ 0 < p.borrowSupply ∧ p.finishLend = 0 ∧ p.finishBorrow = 0 ∧
        p.borrowSupply * 500 / 10000 + p.recoveryLend + p.recoveryBorrow = p.borrowSupply) ∧
      (p.phase ≠ .liquidated → ∀ u,
        (p.lendPosition u).recovered = false ∧ (p.borrowPosition u).recovered = false) ∧
      (∀ u, if (p.lendPosition u).claimed then
          (p.lendPosition u).refunded = true ∧
            ((p.lendPosition u).receipts = (p.lendPosition u).stake * p.matchedLend / p.lendSupply ∨
              p.phase = .liquidated ∧ (p.lendPosition u).receipts = 0)
        else (p.lendPosition u).receipts = 0) ∧
      ∀ u, if (p.borrowPosition u).claimed then
          (p.borrowPosition u).borrowed = (p.borrowPosition u).pledge * p.matchedLend / p.borrowSupply ∧
            ((p.borrowPosition u).receipts = (p.borrowPosition u).pledge ∨
              p.phase = .liquidated ∧ (p.borrowPosition u).receipts = 0)
        else (p.borrowPosition u).borrowed = 0 ∧ (p.borrowPosition u).receipts = 0 := by
  intro p member
  have books := (play_books (launched_market launched).1 (launched_books launched) foreign).2
  obtain ⟨amounts, lend, borrow⟩ := books.shape p member
  refine ⟨?_, ?_, amounts.running, ?_, ?_, ?_, ?_, ?_⟩
  · intro matching
    exact ⟨amounts.matching matching, fun u => ⟨(lend u).fresh matching, (borrow u).fresh matching⟩⟩
  · intro _
    refine ⟨amounts.matchedLend_le, amounts.matchedBorrow_le, ?_⟩
    intro matched
    exact ⟨matched.trans_le amounts.matchedLend_le, amounts.pledged matched⟩
  · intro finished
    obtain ⟨within, unmatched, recoveryLend, recoveryBorrow⟩ := amounts.finished finished
    exact ⟨recoveryLend, recoveryBorrow, within, unmatched⟩
  · intro liquidated
    obtain ⟨matched, finishLend, finishBorrow, divided⟩ := amounts.liquidated liquidated
    exact ⟨matched, amounts.pledged matched, finishLend, finishBorrow, divided⟩
  · intro alive u
    constructor
    · exact Bool.eq_false_iff.2 fun recovered => alive ((lend u).recovered recovered)
    · exact Bool.eq_false_iff.2 fun recovered => alive ((borrow u).recovered recovered)
  · intro u
    split
    · next claimed => exact ⟨(lend u).refunded claimed, (lend u).claimed claimed⟩
    · next unclaimed => exact (lend u).unclaimed (Bool.eq_false_iff.2 unclaimed)
  · intro u
    split
    · next claimed => exact (borrow u).claimed claimed
    · next unclaimed => exact (borrow u).unclaimed (Bool.eq_false_iff.2 unclaimed)

/-- The lender of the town has claimed 60 receipts for the matched part of 70. -/
theorem town_records_fit :
    let moves := townDue ++ [request 8 .settle [], request 6 .claimLend []]
    ((marketTown.play moves).market (someone 5)).pools.map
        (fun p => (p.matchedLend, p.lendSupply, (p.lendPosition (someone 6)).receipts)) = [(60, 70, 60)] ∧
      ∀ p ∈ ((marketTown.play moves).market (someone 5)).pools, p.phase = .running →
        p.finishLend = 0 ∧ p.finishBorrow = 0 ∧ p.recoveryLend = 0 ∧ p.recoveryBorrow = 0 := by
  intro moves
  have foreign : Foreign (someone 5) moves := by
    unfold Foreign
    decide
  refine ⟨by decide +kernel, ?_⟩
  intro p member
  obtain ⟨_, _, running, _⟩ := records_fit_the_phase marketTown_launched foreign p member
  exact running

end TermLending.World
