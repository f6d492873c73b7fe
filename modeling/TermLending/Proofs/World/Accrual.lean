import TermLending.Proofs.Arith.Accrual
import TermLending.Proofs.Pool.Maturity
import TermLending.Proofs.World.Liquidation

/-!
# What is due as time passes

As long as nobody changes a pool, what it answers is due depends on the clock alone: the principal until the settle time,
then more and more, and from the end on always the same.
-/

namespace TermLending

open Interest

namespace Pool

variable {p : Pool} {now now' : Nat}

/-- What earns interest: the matched loan once it is known, and before that all that lenders brought. -/
def principal (p : Pool) : Nat := if p.phase.isSettled then p.matchedLend else p.lendSupply

theorem dueNow_eq (p : Pool) (now : Nat) :
    p.dueNow now = due p.principal p.interestRate (p.interestElapsed now) := by
  unfold dueNow principal
  split <;> rfl

theorem interestElapsed_le (p : Pool) (now : Nat) : p.interestElapsed now ≤ p.endTime - p.settleTime :=
  Nat.sub_le_sub_right (Nat.min_le_right _ _) _

theorem interestElapsed_mono (p : Pool) (le : now ≤ now') : p.interestElapsed now ≤ p.interestElapsed now' := by
  apply Nat.sub_le_sub_right
  omega

theorem interestElapsed_of_early (early : now ≤ p.settleTime) : p.interestElapsed now = 0 := by
  unfold Loan.interestElapsed
  omega

/-- What is due at a time. -/
def dueAt (p : Pool) (now : Nat) : Nat :=
  p.principal + interestOf p.principal p.interestRate (p.interestElapsed now)

theorem dueNow_eq_ok (rateFits : p.interestRate < 2 ^ 63) (termFits : p.endTime - p.settleTime < 2 ^ 63) (now : Nat) :
    p.dueNow now = .ok (p.dueAt now) := by
  have elapsed : p.interestElapsed now ≤ maxI64 := Nat.le_of_lt_succ ((p.interestElapsed_le now).trans_lt termFits)
  rw [dueNow_eq]
  exact due_eq p.principal (Nat.le_of_lt_succ rateFits) elapsed

theorem dueAt_mono (p : Pool) : Monotone p.dueAt := by
  intro now now' le
  exact Nat.add_le_add_left (interestOf_mono le_rfl le_rfl (p.interestElapsed_mono le)) _

theorem dueAt_of_early (early : now ≤ p.settleTime) : p.dueAt now = p.principal := by
  unfold dueAt
  rw [interestElapsed_of_early early, interestOf_zero_time]
  rfl

theorem dueAt_of_ended (ended : p.endTime ≤ now) : p.dueAt now = p.dueAt p.endTime := by
  unfold dueAt
  rw [interestElapsed_of_ended ended, interestElapsed_of_ended le_rfl]

/-- What is due follows from what is published of a pool. -/
theorem dueAt_of_records {q : Pool} (loan : q.toLoan = p.toLoan) (amounts : q.toAmounts = p.toAmounts) :
    q.dueAt = p.dueAt := by
  funext now
  unfold dueAt principal
  rw [loan, amounts]

end Pool

namespace World

variable {self : Address} {w : World} {p q : Pool} {id : Nat}

theorem due_of_records (rateFits : p.interestRate < 2 ^ 63) (termFits : p.endTime - p.settleTime < 2 ^ 63)
    (market : w.kind self = some .market) (fits : id ≤ maxU32) (read : (w.market self).pool? id = some q)
    (loan : q.toLoan = p.toLoan) (amounts : q.toAmounts = p.toAmounts) :
    w.askPool self id .due = .ok (.number (p.dueAt w.now)) := by
  have answered : q.dueNow w.now = .ok (p.dueAt w.now) := by
    rw [← Pool.dueAt_of_records loan amounts]
    apply Pool.dueNow_eq_ok
    · rw [loan]
      exact rateFits
    · rw [loan]
      exact termFits
  rw [askPool_eq market fits read]
  exact bind_pure_eq_ok_iff.2 ⟨_, answered, rfl⟩

/--
Interest grows with the principal, the rate and the time, and starts at nothing. So whatever a market answers is due
follows one function of the clock, in all worlds in which the pool is stored as it is: the principal until the settle time,
never less than before, and one amount from the end on.
-/
theorem interest_grows :
    Grows accrued ∧ Grows due ∧ (∀ principal rate, accrued principal rate 0 = .ok 0) ∧
    (∀ principal rate time amount, due principal rate time = .ok amount → principal ≤ amount) ∧
    ∀ p : Pool, p.interestRate < 2 ^ 63 → p.endTime - p.settleTime < 2 ^ 63 →
      ∃ dueAt : Nat → Nat, Monotone dueAt ∧ (∀ now ≤ p.settleTime, dueAt now = p.principal) ∧
        (∀ now, p.endTime ≤ now → dueAt now = dueAt p.endTime) ∧
        ∀ (w : World) (self : Address) (id : Nat) (q : Pool), w.kind self = some .market → id ≤ maxU32 →
          (w.market self).pool? id = some q → q.toLoan = p.toLoan → q.toAmounts = p.toAmounts →
            w.askPool self id .due = .ok (.number (dueAt w.now)) := by
  refine ⟨accrued_grows, due_grows, accrued_zero_time, fun _ _ _ _ => principal_le_due, ?_⟩
  intro p rateFits termFits
  refine ⟨p.dueAt, p.dueAt_mono, fun _ early => Pool.dueAt_of_early early, fun _ ended => Pool.dueAt_of_ended ended, ?_⟩
  intro w self id q market fits read loan amounts
  exact due_of_records rateFits termFits market fits read loan amounts

/-- For a year at ten percent the account 6 lends all that it has. -/
def townYear : List Move := [
  .call ⟨someone 8, someone 5,
    .act (.market (.create { townTerms with endTime := 31536010, interestRate := 1000 })), []⟩,
  request 6 .depositLend [⟨coin 0x53, 100⟩]]

/-- Due are 100 at the start, 105 after half of the year, and 110 from its end on. -/
theorem town_interest_grows :
    ∃ dueAt : Nat → Nat, Monotone dueAt ∧ dueAt 10 = 100 ∧ dueAt 15768010 = 105 ∧ dueAt 31536010 = 110 ∧
      ∀ now, { marketTown.play townYear with now }.askPool (someone 5) 1 .due = .ok (.number (dueAt now)) ∧
        (31536010 ≤ now → dueAt now = 110) := by
  have state : (((marketTown.play townYear).market (someone 5)).pool? 1).map (fun p => (p.toTerms, p.phase, p.lendSupply)) =
      some ({ townTerms with endTime := 31536010, interestRate := 1000 }, .matching, 100) := by decide +kernel
  have market : (marketTown.play townYear).kind (someone 5) = some .market := by decide +kernel
  have half : { marketTown.play townYear with now := 15768010 }.askPool (someone 5) 1 .due = .ok (.number 105) := by
    decide +kernel
  have full : { marketTown.play townYear with now := 31536010 }.askPool (someone 5) 1 .due = .ok (.number 110) := by
    decide +kernel
  obtain ⟨p, read, record⟩ := Option.map_eq_some_iff.1 state
  obtain ⟨terms, record⟩ := Prod.mk.inj record
  obtain ⟨phase, supply⟩ := Prod.mk.inj record
  obtain ⟨_, _, _, _, growth⟩ := interest_grows
  obtain ⟨dueAt, mono, early, ended, answers⟩ := growth p (by rw [terms]; decide) (by rw [terms]; decide)
  have principal : p.principal = 100 := by
    unfold Pool.principal
    rw [phase, supply]
    rfl
  have answer (now : Nat) :
      { marketTown.play townYear with now }.askPool (someone 5) 1 .due = .ok (.number (dueAt now)) :=
    answers { marketTown.play townYear with now } (someone 5) 1 p market (by decide) read rfl rfl
  have year : p.endTime = 31536010 := by rw [terms]
  have last : dueAt 31536010 = 110 := Reply.number.inj (Except.ok.inj ((answer _).symm.trans full))
  refine ⟨dueAt, mono, ?_, ?_, last, fun now => ⟨answer now, ?_⟩⟩
  · rw [early 10 (by rw [terms]; decide), principal]
  · exact Reply.number.inj (Except.ok.inj ((answer _).symm.trans half))
  · intro mature
    rw [ended now (by rw [year]; exact mature), year, last]

end World

end TermLending
