import TermLending.Proofs.World.Exits
import TermLending.Proofs.World.Histories

/-!
# Payouts without receipts

Payouts that create and destroy no receipts are carried out if the market has what they hand out. Settlement, maturity and
liquidation hand out pledge tokens and nothing else, and while a pool is open its whole pledge is in the account of the
market.
-/

namespace TermLending.World

variable {self recipient : Address} {w : World} {p : Pool} {t : Transition} {terms : Terms} {o : Outcome} {id m n : Nat}

theorem pledge_covered (solvent : Solvent self w) (member : p ∈ (w.market self).pools)
    (isOpen : p.phase.isTerminal = false) : p.borrowSupply ≤ w.balance self p.pledgeToken := by
  have debt := (poolOwes_le_owes member p.pledgeToken).trans (solvent p.pledgeToken)
  have settle : (0 : ℚ) ≤ if p.pledgeToken = p.settleToken then (p.settleOwed : ℚ) else 0 := by positivity
  unfold poolOwes at debt
  rw [if_pos (rfl : p.pledgeToken = p.pledgeToken), Pool.pledgeOwed_of_open isOpen] at debt
  exact_mod_cast (le_add_of_nonneg_left settle).trans debt

theorem deliver_tokens (recipient : Address) (covered : ∀ T, (if T = terms.settleToken then m else 0) +
      (if T = terms.pledgeToken then n else 0) ≤ w.balance self T) :
    ∃ w' log, w.deliver self terms { recipient, settle := m, pledge := n } = .ok (w', log) := by
  have settleHeld := covered terms.settleToken
  have pledgeHeld := covered terms.pledgeToken
  rw [if_pos rfl] at settleHeld pledgeHeld
  obtain ⟨w₁, settled⟩ : ∃ w₁, w.send self recipient terms.settleToken m = .ok w₁ :=
    send_succeeds ((Nat.le_add_right _ _).trans settleHeld)
  have left := send_balance settled self terms.pledgeToken
  simp only [true_and] at left
  obtain ⟨w₂, pledged⟩ : ∃ w₂, w₁.send self recipient terms.pledgeToken n = .ok w₂ := send_succeeds (by omega)
  refine ⟨w₂, [], ?_⟩
  unfold deliver
  simp only [returnReceipts, issueReceipts, if_true, settled, pledged, bind, Except.bind, pure, Except.pure,
    List.append_nil]

theorem conclude_tokens (payout : t.payout = { recipient, settle := m, pledge := n })
    (covered : ∀ T, (if T = t.pool.settleToken then m else 0) + (if T = t.pool.pledgeToken then n else 0) ≤
      w.balance self T) : ∃ o, w.conclude self id t = .ok o := by
  obtain ⟨w', log, delivered⟩ : ∃ w' log, (w.setMarket self ((w.market self).setPool id t.pool)).deliver self
      t.pool.toTerms { recipient, settle := m, pledge := n } = .ok (w', log) :=
    deliver_tokens (w := w.setMarket self ((w.market self).setPool id t.pool)) recipient covered
  rw [← payout] at delivered
  exact ⟨_, bind_eq_ok_iff.2 ⟨(w', log), delivered, rfl⟩⟩

/-- What is handed out moves from the market to the recipient, and nothing else moves. -/
theorem balance_of_conclude_tokens (payout : t.payout = { recipient, settle := m, pledge := n })
    (h : w.conclude self id t = .ok o) (a : Address) (T : Token) :
    let amount := (if T = t.pool.settleToken then m else 0) + (if T = t.pool.pledgeToken then n else 0)
    o.world.balance a T + (if a = self then amount else 0) = w.balance a T + (if a = recipient then amount else 0) := by
  have moved := (delivered_of_conclude h).balance a T
  rw [payout] at moved
  simp only [outgoing, incoming, receiptsIn, issuable_zero, ite_self, Nat.add_zero] at moved
  exact moved

theorem supply_of_conclude_tokens (payout : t.payout = { recipient, settle := m, pledge := n })
    (h : w.conclude self id t = .ok o) (r : Address) : (o.world.receipt r).supply = (w.receipt r).supply := by
  have counted := (delivered_of_conclude h).supply r
  rw [payout] at counted
  simp only [issuable_zero, ite_self, Nat.add_zero] at counted
  exact counted

theorem conclude_pledge (payout : t.payout = { recipient, pledge := n })
    (covered : n ≤ w.balance self t.pool.pledgeToken) : ∃ o, w.conclude self id t = .ok o := by
  refine conclude_tokens payout fun T => ?_
  rw [ite_self, Nat.zero_add]
  split
  · next here => rwa [here]
  · exact Nat.zero_le _

/-- The pledge moves from the market to the recipient, and nothing else moves. -/
theorem balance_of_conclude_pledge (payout : t.payout = { recipient, pledge := n })
    (h : w.conclude self id t = .ok o) (a : Address) (T : Token) :
    o.world.balance a T + (if a = self ∧ T = t.pool.pledgeToken then n else 0) =
      w.balance a T + (if a = recipient ∧ T = t.pool.pledgeToken then n else 0) := by
  have moved := balance_of_conclude_tokens payout h a T
  rw [ite_self, Nat.zero_add] at moved
  rw [ite_and, ite_and]
  exact moved

end TermLending.World
