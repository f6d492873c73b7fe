import TermLending.Proofs.Pool.Arithmetic

/-!
# When a pool may be closed early

The decision to close a pool is made on a quotient without its fraction and, through a sentinel, also where there is
nothing to divide by. Neither matters: the decision is the same as on exact products, and the queries share it.
-/

namespace TermLending.Pool

variable {p : Pool} {s : Scene} {t : Transition} {health : Nat} {b : Bool} {report : HealthReport}

/-- A running pool has lent something out, and at known prices its pledge is worth less than the threshold asks of the
loan. -/
structure Ripe (p : Pool) (now : Nat) (prices : Except Fault Prices) : Prop where
  running : p.phase = .running
  settled : p.settleTime ≤ now
  lent : 0 < p.matchedLend
  thin : ∃ q, prices = .ok q ∧ 0 < q.settle ∧ 0 < q.pledge ∧
    p.borrowSupply * q.pledge * 10000 < p.liquidationThreshold * p.matchedLend * q.settle

theorem health_eq_ok_iff (lent : 0 < p.matchedLend) : p.health s = .ok health ↔
    ∃ q, s.prices = .ok q ∧ 0 < q.settle ∧ 0 < q.pledge ∧
      health = p.borrowSupply * q.pledge * 10000 / (p.matchedLend * q.settle) := by
  unfold Pool.health
  rw [if_neg (Nat.ne_of_gt lent)]
  simp only [bind_eq_ok_iff, Scene.positivePrices_eq_ok_iff, mulDiv_eq_ok_iff]
  constructor
  · rintro ⟨q, ⟨read, settle, pledge⟩, _, rfl⟩
    exact ⟨q, read, settle, pledge, rfl⟩
  · rintro ⟨q, read, settle, pledge, rfl⟩
    exact ⟨q, ⟨read, settle, pledge⟩, Nat.mul_ne_zero (Nat.ne_of_gt lent) (Nat.ne_of_gt settle), rfl⟩

/-- What was lent out was matched at a rate above the threshold that fits a signed word. -/
theorem threshold_le (sound : p.Sound) (lent : 0 < p.matchedLend) : p.liquidationThreshold ≤ maxI64 :=
  (Nat.le_of_lt sound.terms.buffer).trans (sound.rated lent)

theorem unhealthy_iff (sound : p.Sound) :
    (∃ health, p.health s = .ok health ∧ p.liquidationThreshold ≤ maxI64 ∧ health < p.liquidationThreshold) ↔
      0 < p.matchedLend ∧ ∃ q, s.prices = .ok q ∧ 0 < q.settle ∧ 0 < q.pledge ∧
        p.borrowSupply * q.pledge * 10000 < p.liquidationThreshold * p.matchedLend * q.settle := by
  constructor
  · rintro ⟨health, read, small, low⟩
    have lent := matched_of_unhealthy read small low
    obtain ⟨q, prices, settle, pledge, rfl⟩ := (health_eq_ok_iff lent).1 read
    rw [Nat.div_lt_iff_lt_mul (Nat.mul_pos lent settle), ← Nat.mul_assoc] at low
    exact ⟨lent, q, prices, settle, pledge, low⟩
  · rintro ⟨lent, q, prices, settle, pledge, low⟩
    refine ⟨_, (health_eq_ok_iff lent).2 ⟨q, prices, settle, pledge, rfl⟩, threshold_le sound lent, ?_⟩
    rw [Nat.div_lt_iff_lt_mul (Nat.mul_pos lent settle), ← Nat.mul_assoc]
    exact low

theorem ripe_iff (sound : p.Sound) : p.Ripe s.now s.prices ↔ p.phase = .running ∧ p.settleTime ≤ s.now ∧
    ∃ health, p.health s = .ok health ∧ p.liquidationThreshold ≤ maxI64 ∧ health < p.liquidationThreshold := by
  rw [unhealthy_iff sound]
  constructor
  · rintro ⟨running, settled, lent, thin⟩
    exact ⟨running, settled, lent, thin⟩
  · rintro ⟨running, settled, lent, thin⟩
    exact ⟨running, settled, lent, thin⟩

theorem liquidate_iff_ripe (sound : p.Sound) : (∃ t, p.liquidate s = .ok t) ↔ p.Ripe s.now s.prices := by
  rw [ripe_iff sound]
  constructor
  · rintro ⟨t, accepted⟩
    obtain ⟨health, running, read, settled, small, low, _⟩ := liquidate_eq_ok_iff.1 accepted
    exact ⟨running, settled, health, read, small, low⟩
  · rintro ⟨running, settled, health, read, small, low⟩
    exact ⟨_, liquidate_eq_ok_iff.2 ⟨health, running, read, settled, small, low, rfl⟩⟩

theorem canLiquidate_iff_ripe (sound : p.Sound) : p.canLiquidate s = .ok true ↔ p.Ripe s.now s.prices := by
  rw [ripe_iff sound]
  unfold canLiquidate
  by_cases running : p.phase = .running
  · rw [if_pos running]
    simp only [bind_eq_ok_iff, running, true_and]
    constructor
    · rintro ⟨health, read, liquidatable⟩
      obtain ⟨settled, small, low, _⟩ := (isLiquidatable_eq_ok_iff running).1 ⟨liquidatable, rfl⟩
      exact ⟨settled, health, read, small, low⟩
    · rintro ⟨settled, health, read, small, low⟩
      exact ⟨health, read, ((isLiquidatable_eq_ok_iff running).2 ⟨settled, small, low, rfl⟩).1⟩
  · rw [if_neg running]
    simp [running]

/-- The report of a pool's health answers only where the plain question does, and says the same. -/
theorem canLiquidate_of_healthReport (h : p.healthReport s = .ok report) :
    p.canLiquidate s = .ok report.liquidatable := by
  obtain ⟨health, read, h⟩ := bind_eq_ok_iff.1 h
  obtain ⟨liquidatable, decided, h⟩ := bind_eq_ok_iff.1 h
  cases pure_eq_ok_iff.1 h
  unfold canLiquidate
  split
  · exact bind_eq_ok_iff.2 ⟨health, read, decided⟩
  · next idle =>
    rw [isLiquidatable, if_neg fun due => idle due.1] at decided
    exact decided

/-- A liquidation gives the caller a fixed part of the pledge and divides the rest, as was projected. -/
theorem liquidate_parts (h : p.liquidate s = .ok t) :
    t.payout = { recipient := s.caller, pledge := p.borrowSupply * 500 / 10000 } ∧ t.pool.phase = .liquidated ∧
      t.pool.recoveryLend = p.lendRecovery ∧
      p.borrowSupply * 500 / 10000 + t.pool.recoveryLend + t.pool.recoveryBorrow = p.borrowSupply := by
  obtain ⟨health, running, _, _, _, _, rfl⟩ := liquidate_eq_ok_iff.1 h
  refine ⟨rfl, rfl, ?_, ?_⟩
  · unfold lendRecovery
    rw [if_neg (by simp [running])]
    rfl
  · have within := reward_add_penalty_le p.borrowSupply
    show bpsOf p.borrowSupply rewardBps + bpsOf p.borrowSupply penaltyBps +
      (p.borrowSupply - bpsOf p.borrowSupply rewardBps - bpsOf p.borrowSupply penaltyBps) = p.borrowSupply
    omega

end TermLending.Pool
