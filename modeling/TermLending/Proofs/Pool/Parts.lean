import TermLending.Proofs.Arith.Parts
import TermLending.Proofs.Pool.Later

/-!
# Stakes, pledges and receipts in parts

Claims and redemptions pay a share in proportion to what they are for, rounded down. So nothing is gained by dividing a
stake or a pledge among accounts, or by redeeming receipts one by one.
-/

namespace TermLending.Pool

variable {p p' : Pool} {s : Scene} {t : Transition} {action : Action} {stake : Nat}

theorem matched_splits (p : Pool) : SplitsWithoutGain p.matched := splits_of_shares p.matched_eq

theorem unmatched_splits (within : p.matchedLend ≤ p.lendSupply) : SplitsWithoutGain p.unmatched :=
  splits_of_shares fun _ => unmatched_eq_ok_iff.2 ⟨.inr within, rfl⟩

theorem drawn_splits (pledged : p.borrowSupply ≠ 0) : SplitsWithoutGain p.drawn :=
  splits_of_shares fun _ => drawn_eq_ok_iff.2 ⟨pledged, rfl⟩

theorem lendPayout_splits (lent : p.matchedLend ≠ 0) : SplitsWithoutGain p.lendPayout :=
  splits_of_shares fun _ => mulDiv_eq_ok_iff.2 ⟨lent, rfl⟩

theorem borrowPayout_splits (pledged : p.borrowSupply ≠ 0) : SplitsWithoutGain p.borrowPayout :=
  splits_of_shares fun _ => mulDiv_eq_ok_iff.2 ⟨pledged, rfl⟩

/-- Of a stake, a unit is lost between loan and refund, or nothing. -/
theorem stake_divided (within : p.matchedLend ≤ p.lendSupply) (staked : stake ≤ p.lendSupply) :
    ∃ matched refund, p.matched stake = .ok matched ∧ p.unmatched stake = .ok refund ∧
      (matched + refund = stake ∨ matched + refund + 1 = stake) := by
  refine ⟨_, _, matched_eq p stake, unmatched_eq_ok_iff.2 ⟨.inr within, rfl⟩, ?_⟩
  rcases Nat.eq_zero_or_pos p.lendSupply with none | positive
  · have nothing : stake = 0 := Nat.eq_zero_of_le_zero (none ▸ staked)
    subst nothing
    exact .inl (by simp [matchedOf, unmatchedOf])
  · exact two_shares within positive stake

/-! ### What is paid -/

theorem Later.drawn (h : p.Later p') (settled : p.phase.isSettled = true) : p'.drawn = p.drawn := by
  funext pledge
  unfold Pool.drawn
  rw [h.borrowSupply settled, h.matchedLend settled]

/-- A loan is paid for the pledge of its user, and a redemption for the receipts handed in. -/
def Pays (p : Pool) : Action → Payout → Prop
  | .claimBorrow, out => p.drawn (p.borrowPosition out.recipient).pledge = .ok out.settle
  | .withdrawLend, out => p.lendPayout out.burnLend = .ok out.pledge
  | .withdrawBorrow, out => p.borrowPayout out.burnBorrow = .ok out.pledge
  | _, _ => True

/-- What a pool pays by is final, so it can be read off the pool at any later time. -/
theorem act_pays (accepted : p.act s action = .ok t) (later : t.pool.Later p') : p'.Pays action t.payout := by
  have lasting := (act_later accepted).trans later
  cases act_effect accepted with
  | claimBorrow settled _ _ supplied =>
    show p'.drawn (p'.borrowPosition s.caller).pledge = .ok _
    rw [lasting.drawn settled, lasting.pledge settled]
    exact drawn_eq_ok_iff.2 ⟨supplied, rfl⟩
  | @withdrawLend receipts finished _ lent =>
    have lent' : p'.matchedLend ≠ 0 := by
      rw [lasting.matchedLend (by rw [finished]; rfl)]
      exact Nat.ne_of_gt lent
    exact mulDiv_eq_ok_iff.2 ⟨lent', (lasting.lendPayoutOf finished receipts).symm⟩
  | @withdrawBorrow receipts finished _ supplied =>
    have supplied' : p'.borrowSupply ≠ 0 := by
      rw [lasting.borrowSupply (by rw [finished]; rfl)]
      exact Nat.ne_of_gt supplied
    exact mulDiv_eq_ok_iff.2 ⟨supplied', (lasting.borrowPayoutOf finished receipts).symm⟩
  | _ => trivial

/-! ### Redemptions one by one -/

section

variable {α : Type} {calls : List α} {out : α → Payout}

theorem lend_redeemed_in_parts (some : calls ≠ []) (paid : ∀ e ∈ calls, p.Pays .withdrawLend (out e)) :
    ∃ whole, p.lendPayout (calls.map fun e => (out e).burnLend).sum = .ok whole ∧
      (calls.map fun e => (out e).pledge).sum ≤ whole ∧
      whole < (calls.map fun e => (out e).pledge).sum + calls.length := by
  obtain ⟨e, member⟩ := List.exists_mem_of_ne_nil calls some
  have lent := (mulDiv_eq_ok_iff.1 (paid e member)).1
  exact (lendPayout_splits lent).calls some paid

theorem borrow_redeemed_in_parts (some : calls ≠ []) (paid : ∀ e ∈ calls, p.Pays .withdrawBorrow (out e)) :
    ∃ whole, p.borrowPayout (calls.map fun e => (out e).burnBorrow).sum = .ok whole ∧
      (calls.map fun e => (out e).pledge).sum ≤ whole ∧
      whole < (calls.map fun e => (out e).pledge).sum + calls.length := by
  obtain ⟨e, member⟩ := List.exists_mem_of_ne_nil calls some
  have pledged := (mulDiv_eq_ok_iff.1 (paid e member)).1
  exact (borrowPayout_splits pledged).calls some paid

end

end TermLending.Pool
