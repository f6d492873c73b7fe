import Mathlib.Algebra.Ring.Nat
import TermLending.Arith.Checked

/-!
# Amounts in parts

A share is rounded down. Shares of the parts of an amount never add up to more than the share of all of it, and each part
loses less than a unit.
-/

namespace TermLending

variable {α : Type} {f : Nat → Except Fault Nat} {a b m n : Nat} {parts : List Nat}

/-! ### Quotients -/

theorem sum_shares_le (a b : Nat) (parts : List Nat) : (parts.map fun n => n * a / b).sum ≤ parts.sum * a / b := by
  induction parts with
  | nil => exact Nat.zero_le _
  | cons part rest ih =>
    rw [List.map_cons, List.sum_cons, List.sum_cons, Nat.add_mul]
    calc part * a / b + (rest.map fun n => n * a / b).sum ≤ part * a / b + rest.sum * a / b := Nat.add_le_add_left ih _
      _ ≤ (part * a + rest.sum * a) / b := Nat.div_add_div_le_add_div

/-- Multiplied out, the share of each part falls short by less than the divisor. -/
theorem sum_le_sum_shares (positive : 0 < b) (a : Nat) (parts : List Nat) :
    parts.sum * a + parts.length ≤ ((parts.map fun n => n * a / b).sum + parts.length) * b := by
  induction parts with
  | nil => simp
  | cons part rest ih =>
    have lost : part * a < part * a / b * b + b := Nat.lt_div_mul_add positive
    simp only [List.map_cons, List.sum_cons, List.length_cons, Nat.add_mul] at ih ⊢
    omega

theorem share_lt_sum_shares (a b : Nat) (some : parts ≠ []) :
    parts.sum * a / b < (parts.map fun n => n * a / b).sum + parts.length := by
  have longer : 0 < parts.length := List.length_pos_iff.2 some
  rcases Nat.eq_zero_or_pos b with rfl | positive
  · rw [Nat.div_zero]
    exact Nat.add_pos_right _ longer
  · rw [Nat.div_lt_iff_lt_mul positive]
    have bound := sum_le_sum_shares positive a parts
    omega

/-- An amount that is shared between two loses a unit or nothing. -/
theorem two_shares (within : m ≤ n) (positive : 0 < n) (a : Nat) :
    a * m / n + a * (n - m) / n = a ∨ a * m / n + a * (n - m) / n + 1 = a := by
  have fewer := sum_shares_le a n [m, n - m]
  have most := share_lt_sum_shares a n (List.cons_ne_nil m [n - m])
  simp only [List.map_cons, List.map_nil, List.sum_cons, List.sum_nil, List.length_cons, List.length_nil, Nat.add_zero,
    Nat.add_sub_cancel' within, Nat.mul_div_cancel_left a positive] at fewer most
  rw [Nat.mul_comm a m, Nat.mul_comm a (n - m)]
  omega

/-! ### Computations -/

theorem mapM_eq_ok {f : α → Except Fault Nat} {g : α → Nat} {items : List α} (each : ∀ x ∈ items, f x = .ok (g x)) :
    items.mapM f = .ok (items.map g) := by
  induction items with
  | nil => rfl
  | cons first rest ih =>
    have others := ih fun x member => each x (List.mem_cons_of_mem first member)
    rw [List.mapM_cons, each first List.mem_cons_self, others]
    rfl

/-- `f` gives no more for an amount in parts than for all of it, and less by less than a unit for each part. -/
def SplitsWithoutGain (f : Nat → Except Fault Nat) : Prop :=
  ∀ parts : List Nat, parts ≠ [] → ∃ whole shares, f parts.sum = .ok whole ∧ parts.mapM f = .ok shares ∧
    shares.sum ≤ whole ∧ whole < shares.sum + parts.length

theorem splits_of_shares (shared : ∀ n, f n = .ok (n * a / b)) : SplitsWithoutGain f := by
  intro parts some
  exact ⟨_, _, shared _, mapM_eq_ok fun n _ => shared n, sum_shares_le a b parts, share_lt_sum_shares a b some⟩

/-- The same for calls, each of which gives in a part and is paid for it. -/
theorem SplitsWithoutGain.calls (splits : SplitsWithoutGain f) {calls : List α} {given paid : α → Nat}
    (some : calls ≠ []) (each : ∀ e ∈ calls, f (given e) = .ok (paid e)) :
    ∃ whole, f (calls.map given).sum = .ok whole ∧ (calls.map paid).sum ≤ whole ∧
      whole < (calls.map paid).sum + calls.length := by
  obtain ⟨whole, shares, computed, shared, fewer, most⟩ := splits (calls.map given) (by simpa using some)
  have told : (calls.map given).mapM f = .ok (calls.map paid) := by
    rw [List.mapM_map]
    exact mapM_eq_ok each
  cases shared.symm.trans told
  rw [List.length_map] at most
  exact ⟨whole, computed, fewer, most⟩

end TermLending
