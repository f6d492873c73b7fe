import TermLending.Proofs.World.Kindred

/-!
# What the way out does not depend on

Nobody can freeze an exit or change what it pays by way of the clock, of prices, fees, and settings, or of the signers.
Two worlds that differ in nothing else treat every exit alike, and stay that way.
-/

namespace TermLending.World

variable {home : Address} {w w' : World} {e : Errand}

/-- All accounts have the same, and the same contracts may create and destroy the same receipts. -/
abbrev Equal (w w' : World) : Prop := Kindred (fun _ => True) w w'

/-- The same pools, the same receipt contracts, and the same holdings of all accounts. -/
structure Agreed (home : Address) (w w' : World) : Prop where
  kind : w'.kind = w.kind
  mayIssue : w'.mayIssue = w.mayIssue
  balance : w'.balance = w.balance
  hasHeld : w'.hasHeld = w.hasHeld
  receipt : w'.receipt = w.receipt
  pools : (w'.market home).pools = (w.market home).pools
  receipts : (w'.market home).receipts = (w.market home).receipts

theorem Agreed.equal (h : Agreed home w w') : Equal w w' where
  kind := h.kind
  mayIssue := h.mayIssue
  token r := by rw [h.receipt]
  minters r := by rw [h.receipt]
  balance a _ := by rw [h.balance]
  hasHeld a _ := by rw [h.hasHeld]
  supply a _ := by rw [h.receipt]

/-! ### Calls in worlds with the same holdings -/

theorem transitionOf_of_equal (equal : Equal w w') (pools : (w'.market home).pools = (w.market home).pools)
    (acts : ∀ p : Pool, p.act (w'.scene home e.caller e.payments e.id p) e.action =
      p.act (w.scene home e.caller e.payments e.id p) e.action) : w'.transitionOf home e = w.transitionOf home e := by
  have arrived : Alike (fun _ => False) _ (w.transferAll e.caller home e.payments)
      (w'.transferAll e.caller home e.payments) :=
    equal.transferAll (.inl trivial) home e.payments
  rcases arrived.ok_or_error with ⟨w₁, w₁', paid, paid', _⟩ | ⟨fault, failed, failed'⟩
  · have found : (w'.market home).pool e.id = (w.market home).pool e.id := by
      unfold Market.pool
      rw [Market.pool?_of_pools pools]
    rw [transitionOf_of_paid paid, transitionOf_of_paid paid', found]
    simp only [acts]
  · unfold transitionOf
    rw [failed, failed']

theorem serve_of_equal (equal : Equal w w')
    (gates : w'.gate e.action.isGated (w'.market home).registry e.caller home =
      w.gate e.action.isGated (w.market home).registry e.caller home)
    (transition : w'.transitionOf home e = w.transitionOf home e) :
    Alike (fun _ => False) (Concordant fun _ => True) (w.serve home e) (w'.serve home e) := by
  have funded {α : Type} (x : Except Fault α) : Avoids (fun _ => False) x := fun _ _ => id
  exact serve_alike equal (.inl trivial) gates (Transition.alike_of_eq transition.symm) (.inl fun _ => trivial)
    (fun _ _ _ _ => funded _) (fun _ _ _ _ => funded _)

theorem after_of_equal (equal : Equal w w') (pools : (w'.market home).pools = (w.market home).pools)
    (served : Alike (fun _ => False) (Concordant fun _ => True) (w.serve home e) (w'.serve home e))
    (transition : w'.transitionOf home e = w.transitionOf home e) :
    Equal (w.after (e.move home)) (w'.after (e.move home)) ∧
      ((w'.after (e.move home)).market home).pools = ((w.after (e.move home)).market home).pools := by
  rcases served.ok_or_error with ⟨o, o', done, done', same⟩ | ⟨fault, failed, failed'⟩
  · obtain ⟨p, t, w₁, here⟩ := served_of_serve done
    obtain ⟨p', t', w₁', there⟩ := served_of_serve done'
    have same' : t' = t := by
      have both := there.transitionOf
      rw [transition, here.transitionOf] at both
      exact (Except.ok.inj both).symm
    have after : w.after (e.move home) = o.world := after_call_ok done
    have after' : w'.after (e.move home) = o'.world := after_call_ok done'
    rw [after, after']
    refine ⟨same.kindred, ?_⟩
    rw [here.pools, there.pools, pools, same']
  · have after : w.after (e.move home) = w := after_call_error failed
    have after' : w'.after (e.move home) = w' := after_call_error failed'
    rw [after, after']
    exact ⟨equal, pools⟩

/-! ### Exits -/

theorem Agreed.sameCall (h : Agreed home w w') (user : Address) (payments : List Payment) (id : Nat) (p : Pool) :
    Pool.SameCall (w.scene home user payments id p) (w'.scene home user payments id p) :=
  ⟨rfl, rfl, rfl, h.equal.receiptToken _, h.equal.receiptToken _⟩

theorem Agreed.after (h : Agreed home w w') (exit : e.action.isExit = true) :
    told (w'.serve home e) = told (w.serve home e) ∧
      Agreed home (w.after (e.move home)) (w'.after (e.move home)) := by
  have transition : w'.transitionOf home e = w.transitionOf home e :=
    transitionOf_of_equal h.equal h.pools fun p => Pool.act_of_sameCall p exit (h.sameCall _ _ _ p)
  have served : Alike (fun _ => False) (Concordant fun _ => True) (w.serve home e) (w'.serve home e) := by
    refine serve_of_equal h.equal ?_ transition
    rw [Pool.Action.ungated_of_exit exit]
    rfl
  obtain ⟨equal, pools⟩ := after_of_equal h.equal h.pools served transition
  have left := after_rearranged w home e
  have right := after_rearranged w' home e
  refine ⟨told_of_alike served, equal.kind, equal.mayIssue, ?_, ?_, ?_, pools, ?_⟩
  · exact funext fun a => equal.balance a trivial
  · exact funext fun a => equal.hasHeld a trivial
  · funext r
    rw [left.receipt_eq r, right.receipt_eq r, equal.supply r trivial, h.receipt]
  · rw [left.market, right.market]
    exact h.receipts

/-! ### The switch -/

def pause (w : World) (home : Address) (paused : Bool) : World :=
  w.setMarket home { w.market home with paused }

theorem pause_equal (w : World) (home : Address) (paused : Bool) : Equal w (w.pause home paused) :=
  ⟨rfl, rfl, fun _ => rfl, fun _ => rfl, fun _ _ => rfl, fun _ _ => rfl, fun _ _ => rfl⟩

theorem market_pause (w : World) (home : Address) (paused : Bool) :
    (w.pause home paused).market home = { w.market home with paused } :=
  put_self _ _ _

/-- Setting the switch as it stands does nothing. -/
theorem pause_same (w : World) (home : Address) : w.pause home (w.market home).paused = w := by
  unfold pause setMarket
  rw [put_same]

theorem Rearranged.pause (h : Rearranged home w w') (paused : Bool) :
    Rearranged home (w.pause home paused) (w'.pause home paused) := by
  have settings : { w'.market home with paused } =
      { (w.pause home paused).market home with pools := ((w'.pause home paused).market home).pools } := by
    rw [market_pause, market_pause, h.market]
  have only := h.setMarket { w'.market home with paused }
  unfold Rearranged
  rw [← settings]
  unfold World.pause World.setMarket at *
  dsimp only at only ⊢
  rwa [put_put]

theorem scene_pause (w : World) (home : Address) (paused : Bool) (user : Address) (payments : List Payment) (id : Nat)
    (p : Pool) :
    (w.pause home paused).scene home user payments id p = { w.scene home user payments id p with paused } := by
  unfold scene
  rw [market_pause]
  rfl

theorem after_pause (w : World) (home : Address) (e : Errand) (other : e.action.isDeposit = false) (paused : Bool) :
    told ((w.pause home paused).serve home e) = told (w.serve home e) ∧
      (w.pause home paused).after (e.move home) = (w.after (e.move home)).pause home paused := by
  have equal := pause_equal w home paused
  have pools : ((w.pause home paused).market home).pools = (w.market home).pools := by rw [market_pause]
  have transition : (w.pause home paused).transitionOf home e = w.transitionOf home e := by
    refine transitionOf_of_equal equal pools fun p => ?_
    rw [scene_pause]
    exact Pool.act_of_paused p _ other paused
  have served : Alike (fun _ => False) (Concordant fun _ => True) (w.serve home e)
      ((w.pause home paused).serve home e) := by
    refine serve_of_equal equal ?_ transition
    rw [market_pause]
    rfl
  obtain ⟨after, pools'⟩ := after_of_equal equal pools served transition
  refine ⟨told_of_alike served, ?_⟩
  have left := (after_rearranged w home e).pause paused
  refine (after_rearranged (w.pause home paused) home e).ext left ?_ ?_ ?_ ?_
  · exact funext fun a => after.balance a trivial
  · exact funext fun a => after.hasHeld a trivial
  · exact fun r => after.supply r trivial
  · rw [pools', market_pause]

/--
Worlds that agree on pools, receipts and holdings carry out every exit alike, say the same of it, and agree afterwards,
while what they differ in stays as it was. A market that is paused refuses nothing but deposits.
-/
theorem exits_are_indifferent (home : Address) (e : Errand) :
    (e.action.isExit = true → ∀ w w', Agreed home w w' →
      told (w'.serve home e) = told (w.serve home e) ∧
      Agreed home (w.after (e.move home)) (w'.after (e.move home)) ∧
      Rearranged home w (w.after (e.move home)) ∧ Rearranged home w' (w'.after (e.move home))) ∧
    (e.action.isDeposit = false → ∀ (w : World) (paused : Bool),
      told ((w.pause home paused).serve home e) = told (w.serve home e) ∧
      (w.pause home paused).after (e.move home) = (w.after (e.move home)).pause home paused) := by
  constructor
  · intro exit w w' agreed
    obtain ⟨same, after⟩ := agreed.after exit
    exact ⟨same, after, after_rearranged w home e, after_rearranged w' home e⟩
  · intro other w paused
    exact after_pause w home e other paused

/-- Somebody repriced, rededicated and paused everything about a market that he could. -/
def upheaval (w : World) (home : Address) : World :=
  { w with
    now := 999
    registry := fun _ => {}
    oracle := fun _ => {}
    market := put w.market home { w.market home with
      registry := .zero, oracle := .zero, fees := ⟨10000, 10000⟩, feeAddress := .zero, minDeposit := 7
      paused := true } }

theorem upheaval_agreed (w : World) (home : Address) : Agreed home w (w.upheaval home) where
  kind := rfl
  mayIssue := rfl
  balance := rfl
  hasHeld := rfl
  receipt := rfl
  pools := by simp [upheaval]
  receipts := by simp [upheaval]

/-- The lender of the town can redeem the rest of the receipts all the same. -/
theorem town_lets_out_after_upheaval :
    Agreed (someone 5) (marketTown.play townLoan) ((marketTown.play townLoan).upheaval (someone 5)) ∧
      ∃ o, ((marketTown.play townLoan).upheaval (someone 5)).serve (someone 5)
        ⟨someone 6, 1, .withdrawLend, [⟨coin 0x33, 30⟩]⟩ = .ok o := by
  have agreed := upheaval_agreed (marketTown.play townLoan) (someone 5)
  refine ⟨agreed, ?_⟩
  have before : ((marketTown.play townLoan).serve (someone 5)
      ⟨someone 6, 1, .withdrawLend, [⟨coin 0x33, 30⟩]⟩).isOk = true := by decide +kernel
  obtain ⟨same, _⟩ :=
    (exits_are_indifferent (someone 5) ⟨someone 6, 1, .withdrawLend, [⟨coin 0x33, 30⟩]⟩).1 rfl _ _ agreed
  cases here : (marketTown.play townLoan).serve (someone 5) ⟨someone 6, 1, .withdrawLend, [⟨coin 0x33, 30⟩]⟩ with
  | error fault =>
    rw [here] at before
    cases before
  | ok o =>
    rw [here] at same
    exact ok_of_told same

end TermLending.World
