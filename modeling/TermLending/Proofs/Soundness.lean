import TermLending.Proofs.Market
import TermLending.Proofs.Pool.Lifecycle

/-!
# Sound markets

A market checks terms and fees once, when it takes them over. What was checked then holds ever after, and settlement
adds to it: terms at which something was lent out fit the arithmetic of the pool.
-/

namespace TermLending

/-- What a market demands of terms, but for the use of their receipt contracts. -/
structure Terms.Accepted (t : Terms) : Prop where
  lasting : t.settleTime < t.endTime
  interest : 0 < t.interestRate
  cap : 0 < t.maxSupply
  threshold : 0 < t.liquidationThreshold
  buffer : t.liquidationThreshold < t.mortgageRate
  valid : t.settleToken.isValid = true ∧ t.pledgeToken.isValid = true
  tokens : t.settleToken ≠ t.pledgeToken
  present : t.lendReceipt ≠ .zero ∧ t.borrowReceipt ≠ .zero
  apart : t.lendReceipt ≠ t.borrowReceipt

theorem Terms.Accepted.mortgageRate_pos {t : Terms} (h : t.Accepted) : 0 < t.mortgageRate :=
  Nat.zero_lt_of_lt h.buffer

namespace Pool

variable {p : Pool} {s : Scene} {t : Transition} {amounts : Amounts} {action : Action}

/-- The records of a pool are in order, and so are its terms. -/
structure Sound (p : Pool) : Prop where
  ledger : p.Ledger
  shape : p.Shape
  terms : p.toTerms.Accepted
  rated : 0 < p.matchedLend → p.mortgageRate ≤ maxI64

theorem sound_new {terms : Terms} (accepted : terms.Accepted) : ({ toTerms := terms } : Pool).Sound where
  ledger := ledger_new terms
  shape := shape_new terms
  terms := accepted
  rated := nofun

/-- Two sides are matched at a mortgage rate that fits a signed word only. -/
theorem settledAmounts_needs (h : p.settledAmounts s = .ok amounts) :
    (p.lendSupply = 0 ∨ p.borrowSupply = 0) ∧ amounts = p.toAmounts ∨ p.mortgageRate ≤ maxI64 := by
  unfold settledAmounts at h
  split at h
  · next idle =>
    cases h
    exact .inl ⟨idle, rfl⟩
  · obtain ⟨prices, _, h⟩ := bind_eq_ok_iff.1 h
    obtain ⟨_, sides, _⟩ := bind_eq_ok_iff.1 h
    obtain ⟨_, carried, _⟩ := bind_eq_ok_iff.1 sides
    obtain ⟨_, rated, _⟩ := bind_eq_ok_iff.1 carried
    exact .inr (signed64_eq_ok_iff.1 rated).1

theorem rated_of_settledAmounts (shape : p.Shape) (matching : p.phase = .matching)
    (h : p.settledAmounts s = .ok amounts) (lent : 0 < amounts.matchedLend) : p.mortgageRate ≤ maxI64 := by
  rcases settledAmounts_needs h with ⟨_, rfl⟩ | fits
  · have none : p.matchedLend = 0 := congrArg Amounts.matchedLend (shape.amounts.matching matching)
    exact absurd none (Nat.ne_of_gt lent)
  · exact fits

theorem act_sound (h : p.Sound) (accepted : p.act s action = .ok t) : t.pool.Sound := by
  have terms := (act_later accepted).terms
  refine ⟨act_ledger h.ledger accepted, act_shape h.shape accepted, terms ▸ h.terms, ?_⟩
  have rate : t.pool.mortgageRate = p.mortgageRate := congrArg Terms.mortgageRate terms
  rw [rate]
  rcases (act_step h.shape accepted).matched with rfl | ⟨same, _⟩
  · cases act_effect accepted with
    | settle matching _ settled => exact rated_of_settledAmounts h.shape matching settled
  · rw [same]
    exact h.rated

end Pool

namespace Market

variable {m m' : Market} {terms : Terms} {id : Nat} {event : Event} {setting : Setting}

theorem checkTerms_eq_ok_iff : checkTerms terms = .ok () ↔ terms.Accepted := by
  simp only [checkTerms, bind_eq_ok_iff, demand_eq_ok_iff, exists_const]
  constructor
  · rintro ⟨lasting, interest, cap, ⟨threshold, buffer⟩, valid, tokens, present, apart⟩
    exact ⟨lasting, interest, cap, threshold, buffer, valid, tokens, present, apart⟩
  · rintro ⟨lasting, interest, cap, threshold, buffer, valid, tokens, present, apart⟩
    exact ⟨lasting, interest, cap, ⟨threshold, buffer⟩, valid, tokens, present, apart⟩

theorem create_accepted (h : m.create terms = .ok (m', id, event)) : terms.Accepted := by
  obtain ⟨_, checked, _⟩ := bind_eq_ok_iff.1 h
  exact checkTerms_eq_ok_iff.1 checked

structure Sound (m : Market) : Prop where
  pools : ∀ p ∈ m.pools, p.Sound
  fees : m.fees.lend ≤ maxFee ∧ m.fees.borrow ≤ maxFee

theorem Sound.of_established {registry oracle feeAddress : Address} (h : establish registry oracle feeAddress = .ok m) :
    m.Sound := by
  simp only [establish, bind_eq_ok_iff, pure_eq_ok_iff] at h
  obtain ⟨_, _, _, _, _, _, rfl⟩ := h
  exact ⟨fun _ member => absurd member List.not_mem_nil, Nat.zero_le _, Nat.zero_le _⟩

theorem Sound.set (h : m.Sound) (set : m.set setting = .ok (m', event)) : m'.Sound := by
  unfold Market.set at set
  cases setting with
  | oracle oracle =>
    obtain ⟨_, _, set⟩ := bind_eq_ok_iff.1 set
    cases pure_eq_ok_iff.1 set
    exact ⟨h.pools, h.fees⟩
  | fees fees =>
    obtain ⟨_, checked, set⟩ := bind_eq_ok_iff.1 set
    cases pure_eq_ok_iff.1 set
    exact ⟨h.pools, demand_eq_ok_iff.1 checked⟩
  | feeAddress feeAddress =>
    obtain ⟨_, _, set⟩ := bind_eq_ok_iff.1 set
    cases pure_eq_ok_iff.1 set
    exact ⟨h.pools, h.fees⟩
  | minDeposit amount =>
    cases pure_eq_ok_iff.1 set
    exact ⟨h.pools, h.fees⟩
  | paused paused =>
    cases pure_eq_ok_iff.1 set
    exact ⟨h.pools, h.fees⟩

theorem Sound.create (h : m.Sound) (created : m.create terms = .ok (m', id, event)) : m'.Sound := by
  have accepted := create_accepted created
  obtain ⟨_, _, _, _, rfl⟩ := create_eq_ok created
  refine ⟨?_, h.fees⟩
  intro p member
  rcases List.mem_append.1 member with old | new
  · exact h.pools p old
  · rw [List.mem_singleton] at new
    subst new
    exact Pool.sound_new accepted

theorem Sound.act {p : Pool} {s : Scene} {action : Pool.Action} {t : Transition} (h : m.Sound)
    (read : m.pool? id = some p) (accepted : p.act s action = .ok t) : (m.setPool id t.pool).Sound := by
  refine ⟨?_, h.fees⟩
  intro q member
  rcases mem_setPool member with rfl | other
  · exact Pool.act_sound (h.pools p (mem_of_pool? read)) accepted
  · exact h.pools q other

end Market

end TermLending
