import TermLending.Proofs.Pool.Parts
import TermLending.Proofs.World.Dust

/-!
# Nothing is gained in parts

Whoever redeems receipts in several calls, or has a stake or a pledge in several accounts, gets as much as for all of it
at once, or less by less than a unit for each part.
-/

namespace TermLending.World

open Pool

variable {self u : Address} {w w' : World} {m : Move} {moves : List Move} {J : List Entry} {e : Entry} {id : Nat}
  {p : Pool} {action : Pool.Action} {out : Payout}

/-! ### What the journal says of payouts -/

/-- Carrying out a payout decides on the receipts that are created, and on nothing that is paid for others. -/
theorem pays_released (h : p.Pays action out) (w : World) (terms : Terms) : p.Pays action (w.released terms out) := by
  cases action <;> exact h

theorem Turn.pays (turn : Turn self w m w') (entry : w.entry? self m = some e) :
    ∃ p, (w'.market self).pool? e.id = some p ∧ ∀ p', p.Later p' → p'.Pays e.action e.payout := by
  cases turn with
  | acted x p t w₁ other paid read accepted delivered listed asked =>
    cases entry.symm.trans listed
    refine ⟨t.pool, ?_, fun p' later => pays_released (act_pays accepted later) w _⟩
    rw [market_of_delivered delivered, Market.pool?_setPool read]
    exact if_pos rfl
  | created caller payments w₁ terms market i event other paid created after silent => cases entry.symm.trans silent
  | aside aside silent => cases entry.symm.trans silent

/-- All that the journal of a run lists was paid by what the pool says at the end of the run. -/
theorem journal_pays (market : w.kind self = some .market) (foreign : Foreign self moves)
    (read : ((w.play moves).market self).pool? id = some p) :
    ∀ e ∈ w.journal self moves, e.id = id → p.Pays e.action e.payout := by
  induction moves generalizing w with
  | nil => exact nofun
  | cons m rest ih =>
    have turn := turn_of_move market (foreign m List.mem_cons_self)
    have still : (w.after m).kind self = some .market := (turn.kind (by simp [market])).trans market
    have others : Foreign self rest := fun m' member => foreign m' (List.mem_cons_of_mem m member)
    intro e member here
    rcases List.mem_append.1 member with now | afterwards
    · obtain ⟨p₁, read₁, final⟩ := turn.pays (Option.mem_toList.1 now)
      obtain ⟨p₂, read₂, later⟩ := play_later still others read₁
      rw [here] at read₂
      cases read₂.symm.trans read
      exact final p later
    · exact ih still others read e afterwards here

/-- A lender who has claimed has had the whole refund, and the receipts of the matched part. -/
theorem lend_claim_shares (chronicle : Chronicle J id p) (shape : p.Shape) (claimed : (p.lendPosition u).claimed = true) :
    p.unmatched (p.lendPosition u).stake = .ok (total J id u refunds) ∧
      (p.matched (p.lendPosition u).stake = .ok (p.lendPosition u).receipts ∨
        p.phase = .liquidated ∧ (p.lendPosition u).receipts = 0) := by
  have told := (chronicle.lend u).told.refunded
  rw [if_pos ((shape.lend u).refunded claimed)] at told
  refine ⟨unmatched_eq_ok_iff.2 ⟨.inr shape.amounts.matchedLend_le, told⟩, ?_⟩
  refine ((shape.lend u).claimed claimed).imp_left fun all => ?_
  rw [matched_eq, all]

/--
Any redemptions of a pool have paid at most what one redemption of all their receipts would pay, and less by less than a
unit for each. The same holds for a stake in parts, as to its matched part and its refund, and for a pledge in parts and
the loan it draws; of a single stake, the two together lack a unit or nothing. These are the shares that claims pay.
-/
theorem splitting_never_profits (launched : Launched self w) (foreign : Foreign self moves)
    (read : ((w.play moves).market self).pool? id = some p) :
    let J := w.journal self moves
    (∀ calls ⊆ J, calls ≠ [] → (∀ e ∈ calls, e.id = id ∧ e.action = .withdrawLend) →
      ∃ whole, p.lendPayout (calls.map fun e => e.payout.burnLend).sum = .ok whole ∧
        (calls.map fun e => e.payout.pledge).sum ≤ whole ∧
        whole < (calls.map fun e => e.payout.pledge).sum + calls.length) ∧
    (∀ calls ⊆ J, calls ≠ [] → (∀ e ∈ calls, e.id = id ∧ e.action = .withdrawBorrow) →
      ∃ whole, p.borrowPayout (calls.map fun e => e.payout.burnBorrow).sum = .ok whole ∧
        (calls.map fun e => e.payout.pledge).sum ≤ whole ∧
        whole < (calls.map fun e => e.payout.pledge).sum + calls.length) ∧
    SplitsWithoutGain p.matched ∧ SplitsWithoutGain p.unmatched ∧ (0 < p.borrowSupply → SplitsWithoutGain p.drawn) ∧
    (∀ stake ≤ p.lendSupply, ∃ matched refund, p.matched stake = .ok matched ∧ p.unmatched stake = .ok refund ∧
      (matched + refund = stake ∨ matched + refund + 1 = stake)) ∧
    (∀ u, (p.lendPosition u).claimed = true →
      p.unmatched (p.lendPosition u).stake = .ok (total J id u refunds) ∧
      (p.matched (p.lendPosition u).stake = .ok (p.lendPosition u).receipts ∨
        p.phase = .liquidated ∧ (p.lendPosition u).receipts = 0)) ∧
    ∀ e ∈ J, e.id = id → e.action = .claimBorrow →
      p.drawn (p.borrowPosition e.payout.recipient).pledge = .ok e.payout.settle := by
  intro J
  have recorded : Recorded self ([] ++ J) (w.play moves) := play_recorded (.of_launched launched) foreign
  rw [List.nil_append] at recorded
  have chronicle := recorded.pools id p read
  have shape := recorded.books.shape p (Market.mem_of_pool? read)
  have within := shape.amounts.matchedLend_le
  have paid := journal_pays (launched_market launched).1 foreign read
  have redeemed {calls : List Entry} (listed : calls ⊆ J) {action : Pool.Action}
      (same : ∀ e ∈ calls, e.id = id ∧ e.action = action) : ∀ e ∈ calls, p.Pays action e.payout := by
    intro e member
    obtain ⟨here, acted⟩ := same e member
    rw [← acted]
    exact paid e (listed member) here
  refine ⟨?_, ?_, p.matched_splits, unmatched_splits within, ?_, fun _ => stake_divided within, ?_, ?_⟩
  · intro calls listed some same
    exact lend_redeemed_in_parts some (redeemed listed same)
  · intro calls listed some same
    exact borrow_redeemed_in_parts some (redeemed listed same)
  · intro pledged
    exact drawn_splits (Nat.ne_of_gt pledged)
  · intro u
    exact lend_claim_shares chronicle shape
  · intro e member here claims
    have loan := paid e member here
    rw [claims] at loan
    exact loan

/-- The two lenders of the town redeem 42 and 17 receipts, after a fee of a tenth. -/
def townParts : List Move :=
  .call ⟨someone 8, someone 5, .act (.market (.set (.fees ⟨1000, 500⟩))), []⟩ :: townPair ++ [
    .wait 20,
    request 8 .finish [],
    request 6 .withdrawLend [⟨coin 0x33, 42⟩],
    request 9 .withdrawLend [⟨coin 0x33, 17⟩]]

/-- They get 37 and 15. All 59 receipts at once would have been worth as much, or a unit more. -/
theorem town_redeems_in_parts :
    let calls := (marketTown.journal (someone 5) townParts).filter fun e => e.id = 1 ∧ e.action = .withdrawLend
    (calls.map fun e => e.payout.burnLend) = [42, 17] ∧ (calls.map fun e => e.payout.pledge) = [37, 15] ∧
      ∃ p whole, ((marketTown.play townParts).market (someone 5)).pool? 1 = some p ∧ p.lendPayout 59 = .ok whole ∧
        52 ≤ whole ∧ whole < 54 := by
  intro calls
  have foreign : Foreign (someone 5) townParts := by
    unfold Foreign
    decide
  have there : (((marketTown.play townParts).market (someone 5)).pool? 1).isSome = true := by decide +kernel
  obtain ⟨p, read⟩ := Option.isSome_iff_exists.1 there
  have burned : (calls.map fun e => e.payout.burnLend) = [42, 17] := by decide +kernel
  have paid : (calls.map fun e => e.payout.pledge) = [37, 15] := by decide +kernel
  have number : calls.length = 2 := by
    rw [← List.length_map, burned]
    rfl
  have some : calls ≠ [] := List.length_pos_iff.1 (by omega)
  have same : ∀ e ∈ calls, e.id = 1 ∧ e.action = .withdrawLend := by
    intro e member
    simpa using (List.mem_filter.1 member).2
  obtain ⟨whole, computed, fewer, most⟩ := (splitting_never_profits marketTown_launched foreign read).1 calls
    (List.filter_subset_self _) some same
  rw [burned] at computed
  rw [paid] at fewer most
  rw [number] at most
  exact ⟨burned, paid, p, whole, read, computed, fewer, most⟩

end TermLending.World
