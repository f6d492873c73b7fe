import TermLending.Proofs.Alike
import TermLending.Proofs.Pool.Later

/-!
# What an exit reads and writes

The way out of a settled pool reads the position of its caller and what settlement made final, and writes the position
of its caller. It does not look at the clock, at prices, at fees, at the other settings of the market, or at the
positions of other users.
-/

namespace TermLending

namespace Transition

/-- The transition with its pool changed further. -/
def mapPool (g : Pool → Pool) (t : Transition) : Transition := { t with pool := g t.pool }

/-- The same is released and announced, of pools with the same terms. -/
structure Corresponding (t t' : Transition) : Prop where
  payout : t'.payout = t.payout
  events : t'.events = t.events
  terms : t'.pool.toTerms = t.pool.toTerms

theorem alike_of_eq {excused : Fault → Prop} {x y : Except Fault Transition} (h : x = y) :
    Alike excused Corresponding x y := by
  refine (Alike.of_eq h).mono fun t t' same => ?_
  subst same
  exact ⟨rfl, rfl, rfl⟩

end Transition

namespace Pool

variable {p : Pool} {s s' : Scene} {t t' : Transition} {action action' : Action} {user : Address}

/-- Claims, and what takes tokens out of a pool that has ended. -/
def Action.isExit : Action → Bool
  | refundLend none | claimLend | claimBorrow | withdrawLend | withdrawBorrow | recoverLend | recoverBorrow => true
  | _ => false

/-- Exits that stay open when a pool ends. -/
def Action.isClaim : Action → Bool
  | refundLend none | claimLend | claimBorrow => true
  | _ => false

def Action.isDeposit : Action → Bool
  | depositLend | depositBorrow => true
  | _ => false

theorem Action.exit_of_claim (claim : action.isClaim = true) : action.isExit = true := by
  cases action with
  | refundLend amount =>
    cases amount with
    | none => rfl
    | some amount => cases claim
  | claimLend => rfl
  | claimBorrow => rfl
  | _ => cases claim

theorem Action.ungated_of_exit (exit : action.isExit = true) : action.isGated = false := by
  cases action with
  | settle => cases exit
  | finish => cases exit
  | _ => rfl

/-! ### Reading -/

/-- The same call, at whatever time and prices, and whatever the settings of the market. -/
structure SameCall (s s' : Scene) : Prop where
  id : s'.id = s.id
  caller : s'.caller = s.caller
  attached : s'.attached = s.attached
  lendToken : s'.lendToken = s.lendToken
  borrowToken : s'.borrowToken = s.borrowToken

/-- An exit depends on the call and on the pool alone. -/
theorem act_of_sameCall (p : Pool) (exit : action.isExit = true) (same : SameCall s s') :
    p.act s' action = p.act s action := by
  obtain ⟨id, caller, now, attached, paused, minDeposit, fees, feeAddress, prices, lendToken, borrowToken⟩ := s
  obtain ⟨_, _, now', _, paused', minDeposit', fees', feeAddress', prices', _, _⟩ := s'
  obtain ⟨rfl, rfl, rfl, rfl, rfl⟩ := same
  cases action with
  | refundLend amount =>
    cases amount with
    | none => rfl
    | some amount => cases exit
  | claimLend => rfl
  | claimBorrow => rfl
  | withdrawLend => rfl
  | withdrawBorrow => rfl
  | recoverLend => rfl
  | recoverBorrow => rfl
  | _ => cases exit

/-- A market that is paused refuses deposits, and nothing else. -/
theorem act_of_paused (p : Pool) (s : Scene) (other : action.isDeposit = false) (paused : Bool) :
    p.act { s with paused } action = p.act s action := by
  cases action with
  | depositLend => cases other
  | depositBorrow => cases other
  | refundLend amount => cases amount <;> rfl
  | _ => rfl

/-! ### Writing -/

/-- A position that is to be stored, if any. -/
inductive Filing where
  | nothing
  | lend (user : Address) (position : LendPosition)
  | borrow (user : Address) (position : BorrowPosition)

namespace Filing

variable {f f' : Filing}

/-- Whose position it is. -/
def owner : Filing → Option Address
  | nothing => none
  | lend user _ | borrow user _ => some user

def lending (stored : Address → Option LendPosition) : Filing → Address → Option LendPosition
  | lend user position => put stored user (some position)
  | _ => stored

def borrowing (stored : Address → Option BorrowPosition) : Filing → Address → Option BorrowPosition
  | borrow user position => put stored user (some position)
  | _ => stored

theorem lending_of_ne (other : f.owner ≠ some user) (stored : Address → Option LendPosition) :
    f.lending stored user = stored user := by
  cases f with
  | lend u q => exact put_of_ne _ _ _ fun here => other (congrArg some here.symm)
  | _ => rfl

theorem borrowing_of_ne (other : f.owner ≠ some user) (stored : Address → Option BorrowPosition) :
    f.borrowing stored user = stored user := by
  cases f with
  | borrow u q => exact put_of_ne _ _ _ fun here => other (congrArg some here.symm)
  | _ => rfl

theorem lending_comm (apart : ∀ user, f.owner = some user → f'.owner ≠ some user)
    (stored : Address → Option LendPosition) : f.lending (f'.lending stored) = f'.lending (f.lending stored) := by
  cases f with
  | lend u q =>
    cases f' with
    | lend u' q' => exact put_comm _ _ _ _ fun here => apart u rfl (congrArg some here)
    | _ => rfl
  | _ => rfl

theorem borrowing_comm (apart : ∀ user, f.owner = some user → f'.owner ≠ some user)
    (stored : Address → Option BorrowPosition) :
    f.borrowing (f'.borrowing stored) = f'.borrowing (f.borrowing stored) := by
  cases f with
  | borrow u q =>
    cases f' with
    | borrow u' q' => exact put_comm _ _ _ _ fun here => apart u rfl (congrArg some here)
    | _ => rfl
  | _ => rfl

end Filing

def file (p : Pool) (f : Filing) : Pool :=
  { p with lending := f.lending p.lending, borrowing := f.borrowing p.borrowing }

/-- Positions of different users are stored in any order. -/
theorem file_comm {f f' : Filing} (apart : ∀ user, f.owner = some user → f'.owner ≠ some user) (p : Pool) :
    (p.file f').file f = (p.file f).file f' := by
  unfold file
  simp only [f.lending_comm apart, f.borrowing_comm apart]

/-- An exit stores at most a position of its caller. -/
theorem act_files (exit : action.isExit = true) (accepted : p.act s action = .ok t) :
    ∃ f : Filing, (∀ user, f.owner = some user → user = s.caller) ∧ t.pool = p.file f := by
  cases act_effect accepted with
  | refundRest | claimLend | recoverLend => exact ⟨.lend s.caller _, fun _ here => (Option.some.inj here).symm, rfl⟩
  | claimBorrow | recoverBorrow => exact ⟨.borrow s.caller _, fun _ here => (Option.some.inj here).symm, rfl⟩
  | withdrawLend | withdrawBorrow => exact ⟨.nothing, nofun, rfl⟩
  | _ => cases exit

/-! ### One after another -/

/-- To change the pool by `g` first makes no difference to the action, except that its pool is changed as well. -/
def Passes (g : Pool → Pool) (p : Pool) (s : Scene) (action : Action) : Prop :=
  (g p).act s action = Transition.mapPool g <$> p.act s action

/-- An exit does not mind the positions of others. -/
theorem exit_passes_file {f : Filing} (exit : action.isExit = true) (other : f.owner ≠ some s.caller) (p : Pool) :
    Passes (·.file f) p s action := by
  have lent : (p.file f).lendPosition s.caller = p.lendPosition s.caller :=
    congrArg (·.getD {}) (f.lending_of_ne other p.lending)
  have pledged : (p.file f).borrowPosition s.caller = p.borrowPosition s.caller :=
    congrArg (·.getD {}) (f.borrowing_of_ne other p.borrowing)
  have lend (q : LendPosition) : (p.file f).setLending s.caller q = (p.setLending s.caller q).file f :=
    file_comm (f := .lend s.caller q) (fun _ here => (Option.some.inj here) ▸ other) p
  have borrow (q : BorrowPosition) : (p.file f).setBorrowing s.caller q = (p.setBorrowing s.caller q).file f :=
    file_comm (f := .borrow s.caller q) (fun _ here => (Option.some.inj here) ▸ other) p
  unfold Passes
  cases action with
  | refundLend amount =>
    cases amount with
    | none =>
      show (p.file f).refundUnmatched s = _ <$> p.refundUnmatched s
      unfold refundUnmatched
      simp only [map_bind, map_pure, lent, lend]
      rfl
    | some amount => cases exit
  | claimLend =>
    show (p.file f).claimLend s = _ <$> p.claimLend s
    unfold claimLend
    simp only [map_bind, map_pure, lent, lend]
    rfl
  | claimBorrow =>
    show (p.file f).claimBorrow s = _ <$> p.claimBorrow s
    unfold claimBorrow
    simp only [map_bind, map_pure, pledged, borrow]
    rfl
  | withdrawLend =>
    show (p.file f).withdrawLend s = _ <$> p.withdrawLend s
    unfold withdrawLend
    simp only [map_bind, map_pure]
    rfl
  | withdrawBorrow =>
    show (p.file f).withdrawBorrow s = _ <$> p.withdrawBorrow s
    unfold withdrawBorrow
    simp only [map_bind, map_pure]
    rfl
  | recoverLend =>
    show (p.file f).recoverLend s = _ <$> p.recoverLend s
    unfold recoverLend
    simp only [map_bind, map_pure, lent, lend]
    rfl
  | recoverBorrow =>
    show (p.file f).recoverBorrow s = _ <$> p.recoverBorrow s
    unfold recoverBorrow
    simp only [map_bind, map_pure, pledged, borrow]
    rfl
  | _ => cases exit

/-- The end of a pool does not mind any positions. -/
theorem finish_passes_file (f : Filing) (p : Pool) (s : Scene) : Passes (·.file f) p s .finish := by
  show (p.file f).finish s = _ <$> p.finish s
  unfold finish
  simp only [map_bind, map_pure]
  rfl

theorem liquidate_passes_file (f : Filing) (p : Pool) (s : Scene) : Passes (·.file f) p s .liquidate := by
  show (p.file f).liquidate s = _ <$> p.liquidate s
  unfold liquidate
  simp only [map_bind, map_pure]
  rfl

/-- Claims do not mind the end of a pool, but for the receipts that a liquidated one does not create. -/
theorem claim_passes_end (claim : action.isClaim = true) (running : p.phase = .running) {amounts : Amounts}
    {phase : Phase} (settled : phase.isSettled = true) (final : amounts.matchedLend = p.matchedLend)
    (alive : phase = .liquidated → action = .refundLend none) (s : Scene) :
    Passes (·.setAmounts amounts phase) p s action := by
  have isOpen : (p.setAmounts amounts phase).phase.isSettled = p.phase.isSettled := by
    rw [running]
    exact settled
  have unmatched (n : Nat) : (p.setAmounts amounts phase).unmatched n = p.unmatched n := by
    unfold Pool.unmatched
    rw [← final]
    rfl
  have matched (n : Nat) : (p.setAmounts amounts phase).matched n = p.matched n := by
    unfold Pool.matched
    rw [← final]
    rfl
  have drawn (n : Nat) : (p.setAmounts amounts phase).drawn n = p.drawn n := by
    unfold Pool.drawn
    rw [← final]
    rfl
  have liquidated : p.phase ≠ .liquidated := by
    rw [running]
    decide
  unfold Passes
  cases action with
  | refundLend amount =>
    cases amount with
    | none =>
      show (p.setAmounts amounts phase).refundUnmatched s = _ <$> p.refundUnmatched s
      unfold refundUnmatched
      simp only [map_bind, map_pure, isOpen, unmatched]
      rfl
    | some amount => cases claim
  | claimLend =>
    have closed : (p.setAmounts amounts phase).phase ≠ .liquidated := by
      intro here
      cases alive here
    show (p.setAmounts amounts phase).claimLend s = _ <$> p.claimLend s
    unfold claimLend receiptsFor refundFor
    simp only [map_bind, map_pure, isOpen, unmatched, matched, if_neg closed, if_neg liquidated]
    rfl
  | claimBorrow =>
    have closed : (p.setAmounts amounts phase).phase ≠ .liquidated := by
      intro here
      cases alive here
    show (p.setAmounts amounts phase).claimBorrow s = _ <$> p.claimBorrow s
    unfold claimBorrow
    simp only [map_bind, map_pure, isOpen, drawn, if_neg closed, if_neg liquidated]
    rfl
  | _ => cases claim

theorem finish_ends (accepted : p.act s .finish = .ok t) :
    p.phase = .running ∧ ∃ amounts, amounts.matchedLend = p.matchedLend ∧ t.pool = p.setAmounts amounts .finished := by
  cases act_effect accepted with
  | finish running => exact ⟨running, _, by rfl, rfl⟩

theorem liquidate_ends (accepted : p.act s .liquidate = .ok t) :
    p.phase = .running ∧
      ∃ amounts, amounts.matchedLend = p.matchedLend ∧ t.pool = p.setAmounts amounts .liquidated := by
  cases act_effect accepted with
  | liquidate running => exact ⟨running, _, by rfl, rfl⟩

/-! ### Independent requests -/

/-- Either of two requests is answered alike before and after the other, and both lead to the same pool. -/
structure Independent (p : Pool) (s : Scene) (action : Action) (s' : Scene) (action' : Action) : Prop where
  first : ∀ t', p.act s' action' = .ok t' →
    Alike (fun _ => False) Transition.Corresponding (p.act s action) (t'.pool.act s action)
  second : ∀ t, p.act s action = .ok t →
    Alike (fun _ => False) Transition.Corresponding (p.act s' action') (t.pool.act s' action')
  meet : ∀ t t' u u', p.act s action = .ok t → p.act s' action' = .ok t' → t'.pool.act s action = .ok u →
    t.pool.act s' action' = .ok u' → u.pool = u'.pool

theorem Independent.symm (h : Independent p s action s' action') : Independent p s' action' s action :=
  ⟨h.second, h.first, fun t t' u u' accepted accepted' after after' =>
    (h.meet t' t u' u accepted' accepted after' after).symm⟩

theorem Passes.alike {g : Pool → Pool} (h : Passes g p s action) (terms : (g p).toTerms = p.toTerms) :
    Alike (fun _ => False) Transition.Corresponding (p.act s action) ((g p).act s action) := by
  have after := h
  unfold Passes at after
  cases accepted : p.act s action with
  | error fault =>
    rw [after, accepted]
    exact .error fault
  | ok t =>
    rw [accepted] at after
    rw [after]
    refine .ok ⟨rfl, rfl, ?_⟩
    rw [(act_later after).terms, terms, (act_later accepted).terms]

theorem Independent.of_passes {V W : (Pool → Pool) → Prop}
    (writes : ∀ t, p.act s action = .ok t → ∃ g, V g ∧ t.pool = g p)
    (writes' : ∀ t, p.act s' action' = .ok t → ∃ g, W g ∧ t.pool = g p)
    (passes : ∀ g, W g → Passes g p s action) (passes' : ∀ g, V g → Passes g p s' action')
    (comm : ∀ g g', V g → W g' → g (g' p) = g' (g p)) : Independent p s action s' action' := by
  refine ⟨?_, ?_, ?_⟩
  · intro t' accepted
    obtain ⟨g, written, same⟩ := writes' t' accepted
    rw [same]
    exact (passes g written).alike (same ▸ (act_later accepted).terms)
  · intro t accepted
    obtain ⟨g, written, same⟩ := writes t accepted
    rw [same]
    exact (passes' g written).alike (same ▸ (act_later accepted).terms)
  · intro t t' u u' accepted accepted' after after'
    obtain ⟨g, written, same⟩ := writes t accepted
    obtain ⟨g', written', same'⟩ := writes' t' accepted'
    rw [same', passes g' written', accepted] at after
    rw [same, passes' g written, accepted'] at after'
    cases after
    cases after'
    show g' t.pool = g t'.pool
    rw [same, same']
    exact (comm g g' written written').symm

theorem exits_independent (exit : action.isExit = true) (exit' : action'.isExit = true) (apart : s.caller ≠ s'.caller)
    (p : Pool) : Independent p s action s' action' := by
  apply Independent.of_passes
    (V := fun g => ∃ f : Filing, (∀ user, f.owner = some user → user = s.caller) ∧ g = (·.file f))
    (W := fun g => ∃ f : Filing, (∀ user, f.owner = some user → user = s'.caller) ∧ g = (·.file f))
  · intro t accepted
    obtain ⟨f, own, same⟩ := act_files exit accepted
    exact ⟨_, ⟨f, own, rfl⟩, same⟩
  · intro t accepted
    obtain ⟨f, own, same⟩ := act_files exit' accepted
    exact ⟨_, ⟨f, own, rfl⟩, same⟩
  · rintro _ ⟨f, own, rfl⟩
    exact exit_passes_file exit (fun here => apart (own _ here)) p
  · rintro _ ⟨f, own, rfl⟩
    exact exit_passes_file exit' (fun here => apart (own _ here).symm) p
  · rintro _ _ ⟨f, own, rfl⟩ ⟨f', own', rfl⟩
    exact file_comm (fun user here here' => apart ((own user here).symm.trans (own' user here'))) p

/-- A claim and the end of a pool, in whatever order. -/
theorem claim_independent_of_end (claim : action.isClaim = true) {phase : Phase} (settled : phase.isSettled = true)
    (alive : phase = .liquidated → action = .refundLend none)
    (ends : ∀ t, p.act s' action' = .ok t →
      p.phase = .running ∧ ∃ amounts, amounts.matchedLend = p.matchedLend ∧ t.pool = p.setAmounts amounts phase)
    (passes : ∀ f, Passes (·.file f) p s' action') (s : Scene) : Independent p s action s' action' := by
  apply Independent.of_passes (V := fun g => ∃ f : Filing, g = (·.file f)) (W := fun g =>
    p.phase = .running ∧ ∃ amounts, amounts.matchedLend = p.matchedLend ∧ g = (·.setAmounts amounts phase))
  · intro t accepted
    obtain ⟨f, _, same⟩ := act_files (Action.exit_of_claim claim) accepted
    exact ⟨_, ⟨f, rfl⟩, same⟩
  · intro t accepted
    obtain ⟨running, amounts, final, same⟩ := ends t accepted
    exact ⟨_, ⟨running, amounts, final, rfl⟩, same⟩
  · rintro _ ⟨running, amounts, final, rfl⟩
    exact claim_passes_end claim running settled final alive s
  · rintro _ ⟨f, rfl⟩
    exact passes f
  · rintro _ _ ⟨f, rfl⟩ ⟨_, amounts, _, rfl⟩
    rfl

theorem claim_independent_of_finish (claim : action.isClaim = true) (p : Pool) (s s' : Scene) :
    Independent p s action s' .finish := by
  have settled : Phase.isSettled .finished = true := rfl
  exact claim_independent_of_end claim settled nofun (fun _ => finish_ends) (finish_passes_file · p s') s

theorem refund_independent_of_liquidate (p : Pool) (s s' : Scene) :
    Independent p s (.refundLend none) s' .liquidate := by
  have settled : Phase.isSettled .liquidated = true := rfl
  exact claim_independent_of_end rfl settled (fun _ => rfl) (fun _ => liquidate_ends) (liquidate_passes_file · p s') s

end Pool

end TermLending
