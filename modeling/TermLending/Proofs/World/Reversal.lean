import TermLending.Proofs.Pool.Reversal
import TermLending.Proofs.World.Indifference
import TermLending.Proofs.World.Matching

/-!
# Deposits that are taken back

A deposit and its cancellation leave the world as it was, whether or not the market is paused in between. Of any row of
deposits and cancellations by one user only the net amount counts.
-/

namespace TermLending.World

open Pool

variable {home user recipient : Address} {w w' w₁ w₂ : World} {p q : Pool} {t : Transition} {o : Outcome} {id m n : Nat}
  {net : ℤ} {payments : List Payment}

/-! ### One deposit, one cancellation -/

/-- Nothing but the pools of a market and what accounts have held tells the two worlds apart, and of the settle token of
a pool an amount has moved. -/
structure Shifted (home source target : Address) (id : Nat) (token : Token) (n : Nat) (q : Pool) (w w' : World) :
    Prop where
  rearranged : Rearranged home w w'
  market : w'.market home = (w.market home).setPool id q
  supply : ∀ r, (w'.receipt r).supply = (w.receipt r).supply
  balance : ∀ a T, w'.balance a T + (if a = source ∧ T = token then n else 0) =
    w.balance a T + (if a = target ∧ T = token then n else 0)

theorem Shifted.stored {source target : Address} {token : Token} (h : Shifted home source target id token n q w w')
    (read : (w.market home).pool? id = some p) : (w'.market home).pool? id = some q := by
  rw [h.market, Market.pool?_setPool read]
  exact if_pos rfl

theorem rearranged_of_onPool {action : Pool.Action} (done : w.onPool home user id action payments = .ok o) :
    Rearranged home w o.world := by
  obtain ⟨p, t, w₁, served⟩ : ∃ p t w₁, Served home ⟨user, id, action, payments⟩ w p t w₁ o.world :=
    served_of_serve done
  exact served.rearranged

/-- A deposit moves what it brings to the market. -/
theorem shifted_of_deposit (read : (w.market home).pool? id = some p)
    (done : w.onPool home user id .depositLend payments = .ok o) :
    ∃ n, payments = [⟨p.settleToken, n⟩] ∧ 0 < n ∧ p.phase = .matching ∧ w.now < p.settleTime ∧
      Shifted home user home id p.settleToken n (p.stake user n) w o.world := by
  obtain ⟨_, _, w₁, t, paid, accepted, concluded⟩ := concluded_of_onPool read done
  obtain ⟨n, deposit, _, rfl⟩ := depositLend_eq_ok_iff.1 accepted
  have attached : payments = [⟨p.settleToken, n⟩] := deposit.attached
  refine ⟨n, attached, deposit.positive, deposit.matching, deposit.early, rearranged_of_onPool done,
    market_of_conclude paid concluded, ?_, ?_⟩
  · intro r
    rw [supply_of_conclude_tokens (m := 0) (n := 0) rfl concluded, (transferAll_only paid).2]
  · intro a T
    have moved := transferAll_balance paid a T
    have kept := balance_of_conclude_tokens (m := 0) (n := 0) rfl concluded a T
    rw [attached, paid_cons] at moved
    simp only [TermLending.World.paid, Nat.add_zero, ite_self] at moved kept
    rw [kept, ite_and, ite_and]
    exact moved

/-- A cancellation moves what it takes back to the user. -/
theorem shifted_of_cancel (read : (w.market home).pool? id = some p)
    (done : w.onPool home user id (.cancelLend n) [] = .ok o) :
    p.phase = .matching ∧ n ≤ (p.lendPosition user).stake ∧
      Shifted home home user id p.settleToken n (p.unstake user n) w o.world := by
  obtain ⟨_, _, w₁, t, paid, accepted, concluded⟩ := concluded_of_onPool read done
  have market := market_of_conclude paid concluded
  obtain ⟨matching, _, _, held, _, rfl⟩ := cancelLend_eq_ok_iff.1 accepted
  have token : (p.unstake user n).settleToken = p.settleToken := congrArg Terms.settleToken (unstake_frame p user n).1
  cases paid
  refine ⟨matching, held, rearranged_of_onPool done, market, ?_, ?_⟩
  · exact supply_of_conclude_tokens (n := 0) rfl concluded
  · intro a T
    have moved := balance_of_conclude_tokens (n := 0) rfl concluded a T
    simp only [ite_self, Nat.add_zero] at moved
    rw [← token, ite_and, ite_and]
    exact moved

/-! ### A deposit that is taken back -/

theorem Rearranged.recall (h : Rearranged home w w') (hasHeld : Address → Token → Bool) :
    Rearranged home w { w' with hasHeld } := by
  unfold Rearranged TokensOnly at h ⊢
  exact congrArg (fun v : World => { v with hasHeld }) h

/-- The market has received what it is to pay back. -/
theorem Shifted.covered {T : Token} (there : Shifted home user home id T n q w w')
    (paid : w.transferAll user home [⟨T, n⟩] = .ok w₁) : n ≤ w'.balance home T := by
  have moved := there.balance home T
  rw [if_pos (⟨rfl, rfl⟩ : home = home ∧ T = T)] at moved
  split at moved
  · next self =>
    obtain ⟨_, first, _⟩ := bind_eq_ok_iff.1 paid
    obtain ⟨⟨afforded, _⟩, _⟩ := transfer_eq_ok_iff.1 first
    dsimp only at afforded
    rw [← self.1] at afforded
    omega
  · omega

/-- At once a stake can be taken back, even if the market is paused by then. -/
theorem cancel_succeeds (ledger : p.Ledger) (read : (w.market home).pool? id = some p)
    (done : w.onPool home user id .depositLend [⟨p.settleToken, n⟩] = .ok o) (positive : 0 < n)
    (matching : p.phase = .matching) (early : w.now < p.settleTime)
    (shifted : Shifted home user home id p.settleToken n (p.stake user n) w o.world) (paused : Bool) :
    ∃ o', (o.world.pause home paused).onPool home user id (.cancelLend n) [] = .ok o' := by
  obtain ⟨market, fits, w₁, _, paid, _, concluded⟩ := concluded_of_onPool read done
  have delivered := (delivered_of_conclude concluded).only
  have now : o.world.now = w.now := delivered.now.trans (transferAll_only paid).1.now
  have kind : o.world.kind home = some .market := by
    rw [delivered.kind]
    exact (transferAll_only paid).1.kind ▸ market
  -- A cancellation reads nothing of the market but the pool, so the switch makes no difference to it.
  have read' : ((o.world.pause home paused).market home).pool? id = some (p.stake user n) := by
    rw [market_pause]
    exact shifted.stored read
  have accepted := cancelLend_stake (s := (o.world.pause home paused).scene home user [] id (p.stake user n)) ledger
    matching (now.trans_lt early) positive
  have covered (T : Token) : (if T = p.settleToken then n else 0) + (if T = p.pledgeToken then 0 else 0) ≤
      (o.world.pause home paused).balance home T := by
    rw [ite_self, Nat.add_zero]
    split
    · next here =>
      rw [here]
      exact shifted.covered paid
    · exact Nat.zero_le _
  obtain ⟨o', concluded'⟩ : ∃ o', (o.world.pause home paused).conclude home id
      ⟨p, { recipient := user, settle := n }, [.lendCancelled user id n]⟩ = .ok o' := conclude_tokens rfl covered
  refine ⟨o', ?_⟩
  rw [onPool_eq (w := o.world.pause home paused) kind fits rfl read' rfl rfl]
  exact bind_eq_ok_iff.2 ⟨_, accepted, concluded'⟩

/-- What went one way and came back has never been away. -/
theorem shifted_back {T : Token} (read : (w.market home).pool? id = some p) {paused : Bool}
    (there : Shifted home user home id T n q w w₁)
    (back : Shifted home home user id T n p (w₁.pause home paused) w') :
    { w' with hasHeld := w.hasHeld } = w.pause home paused := by
  have market : w'.market home = { w.market home with paused } := by
    rw [back.market, market_pause, there.market]
    show { ((w.market home).setPool id q).setPool id p with paused } = _
    rw [Market.setPool_setPool read]
  refine (((there.rearranged.pause paused).trans back.rearranged).recall w.hasHeld).ext (.refl home (w.pause home paused))
    ?_ rfl ?_ ?_
  · funext a T'
    have left := there.balance a T'
    have arrived := back.balance a T'
    change _ = w₁.balance a T' + _ at arrived
    show w'.balance a T' = w.balance a T'
    omega
  · exact fun r => (back.supply r).trans (there.supply r)
  · show (w'.market home).pools = ((w.pause home paused).market home).pools
    rw [market, market_pause]

/-- A deposit and its cancellation leave nothing but the note that the market has had the token. -/
theorem cancel_restores (books : (w.market home).Books)
    (done : w.onPool home user id .depositLend payments = .ok o) : ∃ T n, payments = [⟨T, n⟩] ∧
      ∀ paused, ∃ o', (o.world.pause home paused).onPool home user id (.cancelLend n) [] = .ok o' ∧
        { o'.world with hasHeld := w.hasHeld } = w.pause home paused := by
  obtain ⟨p, _, _, served⟩ : ∃ p t w₁, Served home ⟨user, id, .depositLend, payments⟩ w p t w₁ o.world :=
    served_of_serve done
  have read := served.read
  have ledger := books.ledger p (Market.mem_of_pool? read)
  obtain ⟨n, rfl, positive, matching, early, there⟩ := shifted_of_deposit read done
  refine ⟨p.settleToken, n, rfl, fun paused => ?_⟩
  obtain ⟨o', cancelled⟩ := cancel_succeeds ledger read done positive matching early there paused
  have staked : ((o.world.pause home paused).market home).pool? id = some (p.stake user n) := by
    rw [market_pause]
    exact there.stored read
  obtain ⟨_, _, back⟩ := shifted_of_cancel staked cancelled
  rw [unstake_stake ledger] at back
  exact ⟨o', cancelled, shifted_back read there back⟩

/-- If the market is not paused meanwhile, the same holds. -/
theorem cancel_restores_at_once (done : w.onPool home user id .depositLend payments = .ok o)
    (restores : ∀ paused, ∃ o', (o.world.pause home paused).onPool home user id (.cancelLend n) [] = .ok o' ∧
      { o'.world with hasHeld := w.hasHeld } = w.pause home paused) :
    ∃ o', o.world.onPool home user id (.cancelLend n) [] = .ok o' ∧ { o'.world with hasHeld := w.hasHeld } = w := by
  have kept : (o.world.market home).paused = (w.market home).paused := by rw [(rearranged_of_onPool done).market]
  obtain ⟨o', cancelled, same⟩ := restores (o.world.market home).paused
  rw [pause_same] at cancelled
  rw [kept, pause_same] at same
  exact ⟨o', cancelled, same⟩

/-! ### Any row of deposits and cancellations -/

/-- One user brings settle tokens and takes them back, time passes, and the market is paused and resumed. The number is
what the user has brought on balance. -/
inductive Restakes (home user : Address) (id : Nat) (w : World) : ℤ → World → Prop where
  | start : Restakes home user id w 0 w
  | deposit {net : ℤ} {w₁ : World} {T : Token} {n : Nat} {o : Outcome} (before : Restakes home user id w net w₁)
      (done : w₁.onPool home user id .depositLend [⟨T, n⟩] = .ok o) : Restakes home user id w (net + n) o.world
  | cancel {net : ℤ} {w₁ : World} {n : Nat} {o : Outcome} (before : Restakes home user id w net w₁)
      (done : w₁.onPool home user id (.cancelLend n) [] = .ok o) : Restakes home user id w (net - n) o.world
  | wait {net : ℤ} {w₁ : World} (before : Restakes home user id w net w₁) (now : Nat) :
      Restakes home user id w net { w₁ with now }
  | pause {net : ℤ} {w₁ : World} (before : Restakes home user id w net w₁) (paused : Bool) :
      Restakes home user id w net (w₁.pause home paused)

/-- What a row leaves of a pool and of all accounts. -/
structure NetOf (home user : Address) (id : Nat) (p : Pool) (net : ℤ) (w w' : World) (q : Pool) : Prop where
  stored : (w'.market home).pool? id = some q
  ledger : q.Ledger
  shape : q.Shape
  restaked : Restaked user p net q
  balance : ∀ a T, (w'.balance a T : ℤ) + (if a = user ∧ T = p.settleToken then net else 0) =
    w.balance a T + (if a = home ∧ T = p.settleToken then net else 0)

theorem NetOf.step {q' : Pool} {d : ℤ} {action : Pool.Action} (sofar : NetOf home user id p net w w₁ q)
    (done : w₁.onPool home user id action payments = .ok o) (stored : (o.world.market home).pool? id = some q')
    (restaked : Restaked user q d q')
    (moved : ∀ a T, (o.world.balance a T : ℤ) + (if a = user ∧ T = p.settleToken then d else 0) =
      w₁.balance a T + (if a = home ∧ T = p.settleToken then d else 0)) :
    NetOf home user id p (net + d) w o.world q' := by
  obtain ⟨_, _, t, accepted, same⟩ := stored_of_onPool sofar.stored done
  cases stored.symm.trans same
  refine ⟨stored, act_ledger sofar.ledger accepted, act_shape sofar.shape accepted, sofar.restaked.trans restaked, ?_⟩
  intro a T
  have before := sofar.balance a T
  have now := moved a T
  split_ifs at before now ⊢ <;> omega

/-- Of each row only the net amount is left. -/
theorem Restakes.netOf (h : Restakes home user id w net w') (books : (w.market home).Books)
    (read : (w.market home).pool? id = some p) (matching : p.phase = .matching) :
    ∃ q, NetOf home user id p net w w' q := by
  have member := Market.mem_of_pool? read
  -- Each step needs a pool that is still matching, so the stake is all that the record of the user says.
  induction h with
  | start =>
    have ledger := books.ledger p member
    have shape := books.shape p member
    refine ⟨p, read, ledger, shape, .refl ledger shape matching user, fun a T => ?_⟩
    rw [ite_self, ite_self]
  | deposit before done ih =>
    obtain ⟨q, sofar⟩ := ih
    obtain ⟨n, attached, positive, open_, _, shifted⟩ := shifted_of_deposit sofar.stored done
    obtain ⟨-, rfl⟩ := Payment.mk.inj (List.cons.inj attached).1
    have token : q.settleToken = p.settleToken := congrArg Terms.settleToken sofar.restaked.terms
    refine ⟨q.stake user _, sofar.step done (shifted.stored sofar.stored) (restaked_stake sofar.shape open_ positive) ?_⟩
    intro a T
    have moved := shifted.balance a T
    rw [token] at moved
    split_ifs at moved ⊢ <;> omega
  | cancel before done ih =>
    obtain ⟨q, sofar⟩ := ih
    obtain ⟨open_, held, shifted⟩ := shifted_of_cancel sofar.stored done
    have token : q.settleToken = p.settleToken := congrArg Terms.settleToken sofar.restaked.terms
    rw [sub_eq_add_neg]
    refine ⟨q.unstake user _, sofar.step done (shifted.stored sofar.stored)
      (restaked_unstake sofar.ledger sofar.shape open_ held) ?_⟩
    intro a T
    have moved := shifted.balance a T
    rw [token] at moved
    split_ifs at moved ⊢ <;> omega
  | wait before now ih =>
    obtain ⟨q, sofar⟩ := ih
    exact ⟨q, sofar.stored, sofar.ledger, sofar.shape, sofar.restaked, sofar.balance⟩
  | pause before paused ih =>
    obtain ⟨q, sofar⟩ := ih
    refine ⟨q, ?_, sofar.ledger, sofar.shape, sofar.restaked, sofar.balance⟩
    rw [market_pause]
    exact sofar.stored

/-- Rows with the same net amount cannot be told apart by what they leave. -/
theorem NetOf.unique {q' : Pool} (h : NetOf home user id p net w w₁ q) (h' : NetOf home user id p net w w₂ q') :
    q.toLoan = q'.toLoan ∧ q.toAmounts = q'.toAmounts ∧ q.lending = q'.lending ∧ q.borrowing = q'.borrowing ∧
      w₁.balance = w₂.balance := by
  obtain ⟨loan, amounts, lending, borrowing⟩ := h.restaked.unique h'.restaked
  refine ⟨loan, amounts, lending, borrowing, ?_⟩
  funext a T
  have one := h.balance a T
  have other := h'.balance a T
  omega

/--
Whenever a deposit is accepted, the same amount can be taken back at once, even if the market is paused meanwhile, and the
world is then what it was: all pools with their records and rosters, and all balances. Only the note that the market has
had the token stays. Of any row of deposits and cancellations by one user there is left the net amount, in the supply, in
the record of the user, and in the accounts of the user and the market; the user is listed as a lender while it leaves a
stake, and other users are listed as before. So rows with the same net amount leave the same.
-/
theorem cancellation_reverses_deposit (launched : Launched home w) {moves : List Move} (foreign : Foreign home moves) :
    let w' := w.play moves
    (∀ user id payments o, w'.onPool home user id .depositLend payments = .ok o → ∃ T n, payments = [⟨T, n⟩] ∧
      (∃ o', o.world.onPool home user id (.cancelLend n) [] = .ok o' ∧ { o'.world with hasHeld := w'.hasHeld } = w') ∧
      ∀ paused, ∃ o', (o.world.pause home paused).onPool home user id (.cancelLend n) [] = .ok o' ∧
        { o'.world with hasHeld := w'.hasHeld } = w'.pause home paused) ∧
    ∀ user id p, (w'.market home).pool? id = some p → p.phase = .matching →
      (∀ net w₁, Restakes home user id w' net w₁ → ∃ q, (w₁.market home).pool? id = some q ∧
        q.toLoan = { p.toLoan with lendSupply := q.lendSupply } ∧ (q.lendSupply : ℤ) = p.lendSupply + net ∧
        q.toAmounts = p.toAmounts ∧ q.borrowers = p.borrowers ∧ q.borrowing = p.borrowing ∧
        ((q.lendPosition user).stake : ℤ) = (p.lendPosition user).stake + net ∧
        q.lending = put p.lending user (heldStake (q.lendPosition user).stake) ∧
        (user ∈ q.lenders ↔ 0 < ((p.lendPosition user).stake : ℤ) + net) ∧
        (∀ a, a ≠ user → (a ∈ q.lenders ↔ a ∈ p.lenders)) ∧
        ∀ a T, (w₁.balance a T : ℤ) + (if a = user ∧ T = p.settleToken then net else 0) =
          w'.balance a T + (if a = home ∧ T = p.settleToken then net else 0)) ∧
      ∀ net w₁ w₂, Restakes home user id w' net w₁ → Restakes home user id w' net w₂ →
        ∃ q₁ q₂, (w₁.market home).pool? id = some q₁ ∧ (w₂.market home).pool? id = some q₂ ∧
          q₁.toLoan = q₂.toLoan ∧ q₁.toAmounts = q₂.toAmounts ∧ q₁.lending = q₂.lending ∧
          q₁.borrowing = q₂.borrowing ∧ w₁.balance = w₂.balance := by
  intro w'
  obtain ⟨market, books⟩ := play_books (launched_market launched).1 (launched_books launched) foreign
  refine ⟨?_, ?_⟩
  · intro user id payments o done
    obtain ⟨T, n, attached, restores⟩ := cancel_restores books done
    exact ⟨T, n, attached, cancel_restores_at_once done restores, restores⟩
  · intro user id p read matching
    refine ⟨?_, ?_⟩
    · intro net w₁ row
      obtain ⟨q, left⟩ := row.netOf books read matching
      exact ⟨q, left.stored, left.restaked.loan, left.restaked.supply, left.restaked.amounts, left.restaked.borrowers,
        left.restaked.borrowing, left.restaked.stake, left.restaked.lending, left.restaked.listed left.ledger,
        left.restaked.others, left.balance⟩
    · intro net w₁ w₂ one other
      obtain ⟨q₁, left₁⟩ := one.netOf books read matching
      obtain ⟨q₂, left₂⟩ := other.netOf books read matching
      exact ⟨q₁, q₂, left₁.stored, left₂.stored, left₁.unique left₂⟩

/-- The account 6 brings another 30 to the town. It may take them back while the market is paused, or leave with all of
its 100. -/
theorem town_cancellation_reverses_deposit :
    let w := marketTown.play townDeposits
    ∃ o o' o₁ q, w.onPool (someone 5) (someone 6) 1 .depositLend [⟨coin 0x53, 30⟩] = .ok o ∧
      (o.world.pause (someone 5) true).onPool (someone 5) (someone 6) 1 (.cancelLend 30) [] = .ok o' ∧
      { o'.world with hasHeld := w.hasHeld } = w.pause (someone 5) true ∧
      o.world.onPool (someone 5) (someone 6) 1 (.cancelLend 100) [] = .ok o₁ ∧
      (o₁.world.market (someone 5)).pool? 1 = some q ∧ q.lendSupply = 0 ∧ q.lending (someone 6) = none ∧
      someone 6 ∉ q.lenders := by
  intro w
  have state : ((w.market (someone 5)).pool? 1).map
      (fun p => (p.phase, p.lendSupply, (p.lendPosition (someone 6)).stake)) = some (.matching, 70, 70) := by
    decide +kernel
  obtain ⟨p, read, record⟩ := Option.map_eq_some_iff.1 state
  obtain ⟨matching, record⟩ := Prod.mk.inj record
  obtain ⟨supply, stake⟩ := Prod.mk.inj record
  have accepted : (w.onPool (someone 5) (someone 6) 1 .depositLend [⟨coin 0x53, 30⟩] >>= fun o =>
      o.world.onPool (someone 5) (someone 6) 1 (.cancelLend 100) []).isOk = true := by decide +kernel
  cases both : w.onPool (someone 5) (someone 6) 1 .depositLend [⟨coin 0x53, 30⟩] >>= fun o =>
      o.world.onPool (someone 5) (someone 6) 1 (.cancelLend 100) [] with
  | error fault =>
    rw [both] at accepted
    cases accepted
  | ok o₁ =>
    obtain ⟨o, brought, taken⟩ := bind_eq_ok_iff.1 both
    obtain ⟨reverses, nets⟩ := cancellation_reverses_deposit marketTown_launched townDeposits_foreign
    obtain ⟨T, n, attached, _, restores⟩ := reverses (someone 6) 1 _ o brought
    obtain ⟨-, rfl⟩ := Payment.mk.inj (List.cons.inj attached).1
    obtain ⟨o', back, same⟩ := restores true
    obtain ⟨q, stored, _, supplied, _, _, _, left, lending, listed, _⟩ :=
      (nets (someone 6) 1 p read matching).1 _ _ ((Restakes.start.deposit brought).cancel taken)
    have none_left : (q.lendPosition (someone 6)).stake = 0 := by omega
    rw [none_left] at lending
    refine ⟨o, o', o₁, q, brought, back, same, taken, stored, by omega, ?_, ?_⟩
    · rw [lending, put_self]
      rfl
    · rw [listed]
      omega

end TermLending.World
