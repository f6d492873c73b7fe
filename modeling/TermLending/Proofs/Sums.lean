import Mathlib.Algebra.BigOperators.Ring.Finset
import Mathlib.Algebra.Order.BigOperators.Group.Finset
import Mathlib.Data.Fintype.EquivFin
import Mathlib.Data.Fintype.Vector
import Mathlib.Tactic.Abel
import TermLending.Address
import TermLending.Data.Pointwise

/-!
# Sums over all accounts

There are finitely many addresses, so a quantity kept per account has a total. A write at one account changes the
total by what it changes there, and the floors of the parts never add up to more than the floor of the whole.
-/

namespace TermLending

open Finset

theorem put_forall {α β : Type} [DecidableEq α] {P : β → Prop} {f : α → β} {a : α} {b : β}
    (others : ∀ x, P (f x)) (written : P b) (x : α) : P (put f a b x) := by
  unfold put
  split
  · exact written
  · exact others x

theorem put_agree {α β γ : Type} [DecidableEq α] {f : α → β} {a : α} {b : β} {g : β → γ} (same : g b = g (f a))
    (x : α) : g (put f a b x) = g (f x) := by
  unfold put
  split
  · next here => rw [same, here]
  · rfl

instance finiteByte : Finite UInt8 := Finite.of_injective UInt8.toFin fun _ _ => UInt8.toFin_inj.1

instance finiteAddress : Finite Address := by
  refine Finite.of_injective (β := List.Vector UInt8 32) (fun a => ⟨a.bytes, a.length_bytes⟩) ?_
  rintro ⟨bytes, _⟩ ⟨bytes', _⟩ same
  have : bytes = bytes' := congrArg Subtype.val same
  subst this
  rfl

noncomputable instance fintypeAddress : Fintype Address := Fintype.ofFinite Address

variable {α β M : Type} [Fintype α] [DecidableEq α] [AddCommMonoid M]

/-- A write at `a` trades the summand of the old value for the summand of the new one. -/
theorem sum_put (f : α → β) (a : α) (b : β) (g : β → M) :
    ∑ x, g (put f a b x) + g (f a) = ∑ x, g (f x) + g b := by
  have rest : ∑ x ∈ univ.erase a, g (put f a b x) = ∑ x ∈ univ.erase a, g (f x) :=
    sum_congr rfl fun x hx => by rw [put_of_ne f a b (ne_of_mem_erase hx)]
  rw [← add_sum_erase univ (fun x => g (put f a b x)) (mem_univ a),
    ← add_sum_erase univ (fun x => g (f x)) (mem_univ a), rest, put_self]
  abel

omit [Fintype α] [DecidableEq α] in
theorem sum_map_set {items : List α} {k : Nat} {a b : α} {f g : α → M} (read : items[k]? = some a)
    (others : ∀ i x, i ≠ k → items[i]? = some x → g x = f x) :
    ((items.set k b).map g).sum + f a = (items.map f).sum + g b := by
  induction items generalizing k with
  | nil => cases read
  | cons head tail ih =>
    cases k with
    | zero =>
      cases read
      have same : tail.map g = tail.map f := by
        refine List.map_congr_left ?_
        intro x member
        obtain ⟨i, found⟩ := List.mem_iff_getElem?.1 member
        exact others (i + 1) x (by omega) found
      simp only [List.set_cons_zero, List.map_cons, List.sum_cons, same]
      abel
    | succ k =>
      have rest := ih read fun i x away found => others (i + 1) x (by omega) found
      have first : g head = f head := others 0 head (by omega) rfl
      simp only [List.set_cons_succ, List.map_cons, List.sum_cons, first]
      rw [add_assoc, rest, add_assoc]

omit [DecidableEq α] in
theorem sum_mul_div_le (f : α → Nat) (m n : Nat) : ∑ x, f x * m / n ≤ (∑ x, f x) * m / n := by
  rcases Nat.eq_zero_or_pos n with rfl | positive
  · simp
  · rw [Nat.le_div_iff_mul_le positive, sum_mul, sum_mul]
    exact sum_le_sum fun x _ => Nat.div_mul_le_self _ _

omit [DecidableEq α] in
/-- What is divided in proportion to the parts of a whole is never exceeded by the parts it is divided into. -/
theorem sum_share_le {f : α → Nat} {whole : Nat} (sum : whole = ∑ x, f x) (m : Nat) : ∑ x, f x * m / whole ≤ m :=
  sum ▸ (sum_mul_div_le f m _).trans (Nat.div_le_of_le_mul le_rfl)

/-! ### What rounding loses -/

/-- A quotient falls short by less than the divisor, and by nothing where there is nothing to divide. -/
theorem sum_mul_le_of_support {s : Finset α} {f : α → Nat} (outside : ∀ x, x ∉ s → f x = 0) {n : Nat}
    (positive : 0 < n) (m : Nat) : (∑ x, f x) * m ≤ (∑ x, f x * m / n) * n + s.card * (n - 1) := by
  have each (x : α) : f x * m ≤ f x * m / n * n + (if x ∈ s then n - 1 else 0) := by
    split
    · have whole := Nat.div_add_mod' (f x * m) n
      have rest := Nat.mod_lt (f x * m) positive
      omega
    · next out => simp [outside x out]
  calc (∑ x, f x) * m = ∑ x, f x * m := sum_mul _ _ _
    _ ≤ ∑ x, (f x * m / n * n + (if x ∈ s then n - 1 else 0)) := sum_le_sum fun x _ => each x
    _ = (∑ x, f x * m / n) * n + s.card * (n - 1) := by
      rw [sum_add_distrib, ← sum_mul, sum_ite_mem, univ_inter, sum_const_nat fun _ _ => rfl]

/-- What is divided in proportion among some falls short of the whole by less than they are. -/
theorem le_sum_share {s : Finset α} {f : α → Nat} {whole : Nat} (outside : ∀ x, x ∉ s → f x = 0)
    (sum : whole = ∑ x, f x) {m : Nat} (shared : 0 < m → 0 < whole) : m ≤ ∑ x, f x * m / whole + (s.card - 1) := by
  rcases Nat.eq_zero_or_pos m with rfl | some
  · exact Nat.zero_le _
  · have positive := shared some
    have lost := sum_mul_le_of_support outside positive m
    rw [← sum] at lost
    have members : 0 < s.card := by
      by_contra none
      rw [Nat.eq_zero_of_not_pos none] at lost
      have nothing : s = ∅ := card_eq_zero.1 (Nat.eq_zero_of_not_pos none)
      rw [sum, sum_eq_zero fun x _ => outside x (by simp [nothing])] at positive
      exact Nat.lt_irrefl 0 positive
    by_contra short
    have gap : ∑ x, f x * m / whole + s.card ≤ m := by omega
    have scaled := Nat.mul_le_mul_left whole gap
    have fewer : s.card * (whole - 1) < s.card * whole := Nat.mul_lt_mul_of_pos_left (by omega) members
    rw [Nat.mul_add, Nat.mul_comm whole s.card, Nat.mul_comm whole (∑ x, f x * m / whole)] at scaled
    omega

end TermLending
