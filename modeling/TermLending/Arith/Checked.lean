import TermLending.Fault

/-!
# Checked arithmetic

Operations on natural numbers that have no value for some operands. Each names its failure, so a caller that
guarantees an operand in range can be proved never to meet it.
-/

namespace TermLending

/-- The largest unsigned numbers of eight, thirty-two and sixty-four bits, and the largest signed one of sixty-four. -/
def maxU8 : Nat := 255
def maxU32 : Nat := 4294967295
def maxU64 : Nat := 18446744073709551615
def maxI64 : Nat := 9223372036854775807

/-- A machine word enters arithmetic on unbounded numbers through a signed word, which the upper half of the
unsigned range does not fit. -/
def signed64 (n : Nat) : Except Fault Nat :=
  if n ≤ maxI64 then .ok n else .error .outsideSigned64

def difference (a b : Nat) : Except Fault Nat :=
  if b ≤ a then .ok (a - b) else .error .negativeDifference

/-- The quotient without its fraction. -/
def quotient (a b : Nat) : Except Fault Nat :=
  if b = 0 then .error .divisionByZero else .ok (a / b)

/-- `a * b / c` without its fraction. The product is taken first, so the only rounding is the last one. -/
def mulDiv (a b c : Nat) : Except Fault Nat := quotient (a * b) c

theorem signed64_eq_ok_iff {n m : Nat} : signed64 n = .ok m ↔ n ≤ maxI64 ∧ m = n := by
  by_cases h : n ≤ maxI64 <;> simp [signed64, h, eq_comm]

theorem difference_eq_ok_iff {a b m : Nat} : difference a b = .ok m ↔ b ≤ a ∧ m = a - b := by
  by_cases h : b ≤ a <;> simp [difference, h, eq_comm]

theorem quotient_eq_ok_iff {a b m : Nat} : quotient a b = .ok m ↔ b ≠ 0 ∧ m = a / b := by
  by_cases h : b = 0 <;> simp [quotient, h, eq_comm]

theorem mulDiv_eq_ok_iff {a b c m : Nat} : mulDiv a b c = .ok m ↔ c ≠ 0 ∧ m = a * b / c :=
  quotient_eq_ok_iff

/-! ### Basis points -/

/-- Basis points in the whole: the denominator of every rate and ratio. -/
def bpsWhole : Nat := 10000

/-- The number of decimals of a rate in basis points. -/
def bpsDecimals : Nat := 4

/-- The part of `amount` that `rate` basis points make, without its fraction. -/
def bpsOf (amount rate : Nat) : Nat := amount * rate / bpsWhole

/-- `bpsOf` at a rate held in a machine word. -/
def applyBps (amount rate : Nat) : Except Fault Nat := do
  let rate ← signed64 rate
  mulDiv amount rate bpsWhole

theorem applyBps_of_le {amount rate : Nat} (h : rate ≤ maxI64) : applyBps amount rate = .ok (bpsOf amount rate) := by
  simp [applyBps, signed64, h, mulDiv, quotient, bpsOf, bpsWhole, bind, Except.bind]

theorem applyBps_eq_ok {amount rate part : Nat} (h : applyBps amount rate = .ok part) : part = bpsOf amount rate := by
  obtain ⟨word, fits, divided⟩ := bind_eq_ok_iff.1 h
  obtain ⟨_, rfl⟩ := signed64_eq_ok_iff.1 fits
  exact (mulDiv_eq_ok_iff.1 divided).2

theorem bpsOf_le {amount rate : Nat} (h : rate ≤ bpsWhole) : bpsOf amount rate ≤ amount := by
  unfold bpsOf
  refine Nat.div_le_of_le_mul ?_
  rw [Nat.mul_comm bpsWhole]
  exact Nat.mul_le_mul_left amount h

end TermLending
