import TermLending.Pool.View
import TermLending.Proofs.Definedness
import TermLending.Proofs.Pool.Exits
import TermLending.Proofs.Soundness
import TermLending.World.Answer

/-!
# The arithmetic of a pool

Few divisors and differences are checked where they are taken. In a sound pool every divisor is positive by then and
no difference is negative: what a pool refuses, it refuses for another reason.
-/

namespace TermLending

namespace Scene

variable {s : Scene}

/-- What a pool relies on beyond its own records: fees within the whole, and answers that other contracts could
compute. -/
structure Sound (s : Scene) : Prop where
  fees : s.fees.lend ≤ bpsWhole ∧ s.fees.borrow ≤ bpsWhole
  prices : Defined s.prices
  lendToken : Defined s.lendToken
  borrowToken : Defined s.borrowToken

theorem payment_defined (s : Scene) : Defined s.payment := by
  unfold payment
  split
  · exact .ok _
  · exact .ok _
  · exact .error rfl

theorem soleToken_defined (attached : List Payment) : Defined (soleToken attached) := by
  unfold soleToken
  split
  · exact .ite (fun _ => .error rfl) fun _ => .ok _
  · exact .error rfl

theorem positivePrices_defined (prices : Defined s.prices) : Defined s.positivePrices :=
  prices.bind fun _ _ => .given rfl fun _ => .pure _

theorem positivePrices_eq_ok_iff {prices : Prices} :
    s.positivePrices = .ok prices ↔ s.prices = .ok prices ∧ 0 < prices.settle ∧ 0 < prices.pledge := by
  simp only [positivePrices, bind_eq_ok_iff, demand_eq_ok_iff, exists_const, pure_eq_ok_iff]
  constructor
  · rintro ⟨_, read, positive, rfl⟩
    exact ⟨read, positive⟩
  · rintro ⟨read, positive⟩
    exact ⟨prices, read, positive, rfl⟩

end Scene

/-! ### Actions -/

theorem Fault.defined_of_refusal {fault : Fault} (refusal : fault.isRefusal = true) : fault.isUndefined = false := by
  cases fault with
  | negativeDifference | divisionByZero => cases refusal
  | _ => rfl

theorem Decides.defined {α : Type} {x : Except Fault α} {entitled : Prop} (h : Decides x entitled) : Defined x :=
  fun fault failed => Fault.defined_of_refusal (h.refused fault failed)

namespace Pool

variable {p : Pool} {s : Scene} {prices : Prices}

theorem acceptDeposit_defined (p : Pool) (s : Scene) (token : Token) : Defined (p.acceptDeposit s token) := by
  refine .given rfl fun _ => .given rfl fun _ => .given rfl fun _ => (s.payment_defined).bind fun _ _ => ?_
  exact .given rfl fun _ => .given rfl fun _ => .given rfl fun _ => .pure _

theorem depositLend_defined (p : Pool) (s : Scene) : Defined (p.depositLend s) :=
  (acceptDeposit_defined p s _).bind fun _ _ => .given rfl fun _ => .pure _

theorem depositBorrow_defined (p : Pool) (s : Scene) : Defined (p.depositBorrow s) :=
  (acceptDeposit_defined p s _).map

theorem receiptsPaid_defined {token : Except Fault Token} (known : Defined token) : Defined (receiptsPaid s token) :=
  known.bind fun _ _ => (Scene.soleToken_defined _).bind fun _ _ => .given rfl fun _ => .given rfl fun _ => .pure _

theorem withdrawLend_defined (token : Defined s.lendToken) : Defined (p.withdrawLend s) := by
  refine .given rfl fun _ => (receiptsPaid_defined token).bind fun _ _ => .given rfl fun lent => ?_
  exact (mulDiv_defined (Nat.ne_of_gt lent)).map

theorem withdrawBorrow_defined (token : Defined s.borrowToken) : Defined (p.withdrawBorrow s) := by
  refine .given rfl fun _ => (receiptsPaid_defined token).bind fun _ _ => .given rfl fun pledged => ?_
  exact (mulDiv_defined (Nat.ne_of_gt pledged)).map

theorem capacity_defined (sound : p.Sound) (positive : 0 < prices.settle) (pledged : Nat) :
    Defined (p.capacity pledged prices) := by
  refine (signed64_defined _).bind fun rate rated => mulDiv_defined ?_
  obtain ⟨_, rfl⟩ := signed64_eq_ok_iff.1 rated
  exact Nat.mul_ne_zero (Nat.ne_of_gt positive) (Nat.ne_of_gt sound.terms.mortgageRate_pos)

theorem settle_defined (sound : p.Sound) (priced : Defined s.prices) : Defined (p.settle s) := by
  refine .given rfl fun _ => .given rfl fun _ => Defined.map ?_
  refine .ite (fun _ => .ok _) fun _ => (Scene.positivePrices_defined priced).bind fun prices known => Defined.map ?_
  obtain ⟨_, settle, pledge⟩ := Scene.positivePrices_eq_ok_iff.1 known
  refine (capacity_defined sound settle _).bind fun _ _ => .ite (fun _ => .pure _) fun _ => ?_
  refine (signed64_defined _).bind fun _ _ => (mulDiv_defined ?_).map
  exact Nat.mul_ne_zero (Nat.ne_of_gt pledge) (by decide)

/-- Lenders are never given more than the whole pledge. -/
theorem pledgeForLenders_le {forLenders : Nat} (h : p.pledgeForLenders s = .ok forLenders) :
    forLenders ≤ p.borrowSupply := by
  unfold pledgeForLenders at h
  split at h
  · cases h
    exact Nat.zero_le _
  · obtain ⟨_, _, h⟩ := bind_eq_ok_iff.1 h
    obtain ⟨_, _, h⟩ := bind_eq_ok_iff.1 h
    obtain ⟨_, _, h⟩ := bind_eq_ok_iff.1 h
    obtain ⟨_, _, h⟩ := bind_eq_ok_iff.1 h
    cases pure_eq_ok_iff.1 h
    exact Nat.min_le_right _ _

theorem fee_le {amount rate fee : Nat} (within : rate ≤ bpsWhole) (h : applyBps amount rate = .ok fee) :
    fee ≤ amount := by
  rw [applyBps_eq_ok h]
  exact bpsOf_le within

theorem finish_defined (sound : p.Sound) (fees : s.fees.lend ≤ bpsWhole ∧ s.fees.borrow ≤ bpsWhole)
    (priced : Defined s.prices) : Defined (p.finish s) := by
  refine .given rfl fun _ => .given rfl fun _ => Defined.map ?_
  refine Defined.bind ?_ fun forLenders owed => ?_
  · refine .ite (fun _ => .ok _) fun _ => (Scene.positivePrices_defined priced).bind fun prices known => ?_
    obtain ⟨_, _, pledge⟩ := Scene.positivePrices_eq_ok_iff.1 known
    refine (difference_defined (Nat.le_of_lt sound.terms.lasting)).bind fun _ _ => ?_
    exact (due_defined _ _ _).bind fun _ _ => (mulDiv_defined (Nat.ne_of_gt pledge)).map
  · refine (applyBps_defined _ _).bind fun lendFee lendCut => ?_
    refine (difference_defined (pledgeForLenders_le owed)).bind fun forBorrowers _ => ?_
    refine (applyBps_defined _ _).bind fun borrowFee borrowCut => ?_
    refine (difference_defined (fee_le fees.1 lendCut)).bind fun _ _ => ?_
    exact (difference_defined (fee_le fees.2 borrowCut)).map

theorem health_defined (p : Pool) (priced : Defined s.prices) : Defined (p.health s) := by
  refine .ite (fun _ => .ok _) fun lent => (Scene.positivePrices_defined priced).bind fun prices known => ?_
  obtain ⟨_, settle, _⟩ := Scene.positivePrices_eq_ok_iff.1 known
  exact mulDiv_defined (Nat.mul_ne_zero lent (Nat.ne_of_gt settle))

theorem isLiquidatable_defined (p : Pool) (now health : Nat) : Defined (p.isLiquidatable now health) :=
  .ite (fun _ => (signed64_defined _).map) fun _ => .ok _

theorem liquidate_defined (p : Pool) (priced : Defined s.prices) : Defined (p.liquidate s) := by
  have parts := reward_add_penalty_le p.borrowSupply
  refine .given rfl fun _ => (health_defined p priced).bind fun _ _ => ?_
  refine (isLiquidatable_defined p _ _).bind fun _ _ => .given rfl fun _ => ?_
  refine (difference_defined (by omega)).bind fun rest taken => ?_
  obtain ⟨_, rfl⟩ := difference_eq_ok_iff.1 taken
  exact (difference_defined (by omega)).map

theorem act_defined (sound : p.Sound) (scene : s.Sound) (action : Action) : Defined (p.act s action) := by
  cases action with
  | depositLend => exact depositLend_defined p s
  | cancelLend amount => exact (cancelLend_decides sound.ledger).defined
  | refundLend amount =>
    cases amount with
    | some amount => exact (cancelLend_decides sound.ledger).defined
    | none => exact (refundUnmatched_decides sound.shape).defined
  | claimLend => exact (claimLend_decides sound.shape).defined
  | withdrawLend => exact withdrawLend_defined scene.lendToken
  | depositBorrow => exact depositBorrow_defined p s
  | claimBorrow => exact (claimBorrow_decides sound.ledger).defined
  | withdrawBorrow => exact withdrawBorrow_defined scene.borrowToken
  | settle => exact settle_defined sound scene.prices
  | finish => exact finish_defined sound scene.fees scene.prices
  | liquidate => exact liquidate_defined p scene.prices
  | recoverLend => exact (recoverLend_decides sound.ledger sound.shape).defined
  | recoverBorrow => exact (recoverBorrow_decides sound.ledger).defined

theorem answer_defined (sound : p.Sound) (scene : s.Sound) (query : Query) : Defined (p.answer s query) := by
  cases query with
  | prices => exact scene.prices.map
  | capacity pledged =>
    refine Defined.map ((Scene.positivePrices_defined scene.prices).bind fun prices known => ?_)
    obtain ⟨_, settle, _⟩ := Scene.positivePrices_eq_ok_iff.1 known
    exact capacity_defined sound settle pledged
  | due => exact (due_defined _ _ _).map
  | health => exact (health_defined p scene.prices).map
  | canLiquidate =>
    refine Defined.map (.ite (fun _ => ?_) fun _ => .ok _)
    exact (health_defined p scene.prices).bind fun _ _ => isLiquidatable_defined p _ _
  | healthReport =>
    refine Defined.map ((health_defined p scene.prices).bind fun _ _ => ?_)
    exact (isLiquidatable_defined p _ _).map
  | _ => exact .pure _

end Pool

end TermLending
