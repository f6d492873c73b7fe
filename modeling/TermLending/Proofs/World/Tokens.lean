import Mathlib.Algebra.Group.Basic
import Mathlib.Algebra.Group.Nat.Defs
import TermLending.Proofs.Pool.Acceptance
import TermLending.World.Action

/-!
# Moving, creating and destroying tokens

What every movement of tokens does to every balance, and what it leaves alone. Balances are compared by adding what
left to the later one and what arrived to the earlier one, so that an account may well pay itself.
-/

namespace TermLending.World

variable {w w' w₁ w₂ : World} {source target account : Address} {token : Token} {n : Nat}
  {payments : List Payment}

/-- Nothing differs but what accounts hold and how many units receipt contracts count. -/
def TokensOnly (w w' : World) : Prop :=
  w' = { w with
    balance := w'.balance
    hasHeld := w'.hasHeld
    receipt := fun r => { w.receipt r with supply := (w'.receipt r).supply } }

namespace TokensOnly

theorem refl (w : World) : w.TokensOnly w := rfl

theorem trans (h₁ : w.TokensOnly w₁) (h₂ : w₁.TokensOnly w₂) : w.TokensOnly w₂ := by
  unfold TokensOnly at h₁ h₂ ⊢
  rw [h₁] at h₂
  exact h₂

/-- What became of one world differs in no more from what else became of it. -/
theorem between (h₁ : w.TokensOnly w₁) (h₂ : w.TokensOnly w₂) : w₁.TokensOnly w₂ := by
  unfold TokensOnly at h₁ h₂ ⊢
  rw [h₁]
  exact h₂

theorem kind (h : w.TokensOnly w') : w'.kind = w.kind := by
  unfold TokensOnly at h
  rw [h]

theorem receipt_eq (h : w.TokensOnly w') (r : Address) :
    w'.receipt r = { w.receipt r with supply := (w'.receipt r).supply } := by
  unfold TokensOnly at h
  rw [h]

theorem token_eq (h : w.TokensOnly w') (r : Address) : (w'.receipt r).token = (w.receipt r).token := by
  rw [h.receipt_eq]

theorem minters_eq (h : w.TokensOnly w') (r : Address) : (w'.receipt r).minters = (w.receipt r).minters := by
  rw [h.receipt_eq]

theorem mayIssue (h : w.TokensOnly w') : w'.mayIssue = w.mayIssue := by
  unfold TokensOnly at h
  rw [h]

theorem market (h : w.TokensOnly w') : w'.market = w.market := by
  unfold TokensOnly at h
  rw [h]

theorem now (h : w.TokensOnly w') : w'.now = w.now := by
  unfold TokensOnly at h
  rw [h]

theorem deployer (h : w.TokensOnly w') : w'.deployer = w.deployer := by
  unfold TokensOnly at h
  rw [h]

theorem registry (h : w.TokensOnly w') : w'.registry = w.registry := by
  unfold TokensOnly at h
  rw [h]

theorem oracle (h : w.TokensOnly w') : w'.oracle = w.oracle := by
  unfold TokensOnly at h
  rw [h]

theorem feed (h : w.TokensOnly w') : w'.feed = w.feed := by
  unfold TokensOnly at h
  rw [h]

end TokensOnly

/-! ### Transfers -/

theorem balance_setBalance (w : World) (account : Address) (token : Token) (n : Nat) (a : Address) (T : Token) :
    (w.setBalance account token n).balance a T = if a = account ∧ T = token then n else w.balance a T := by
  unfold setBalance put
  by_cases here : a = account <;> by_cases this : T = token <;> simp [here, this]

theorem setBalance_only (w : World) (account : Address) (token : Token) (n : Nat) :
    w.TokensOnly (w.setBalance account token n) := rfl

theorem debit_eq_ok_iff : w.debit account token n = .ok w' ↔
    w.CanPay account token n ∧ w' = w.setBalance account token (w.balance account token - n) := by
  simp only [debit, bind_eq_ok_iff, demand_eq_ok_iff, exists_const, pure_eq_ok_iff]

theorem transfer_eq_ok_iff : w.transfer source target token n = .ok w' ↔
    w.CanPay source token n ∧
      w' = (w.setBalance source token (w.balance source token - n)).credit target token n := by
  simp only [transfer, bind_eq_ok_iff, debit_eq_ok_iff, pure_eq_ok_iff]
  constructor
  · rintro ⟨_, ⟨covered, rfl⟩, rfl⟩
    exact ⟨covered, rfl⟩
  · rintro ⟨covered, rfl⟩
    exact ⟨_, ⟨covered, rfl⟩, rfl⟩

theorem transfer_only (h : w.transfer source target token n = .ok w') :
    w.TokensOnly w' ∧ w'.receipt = w.receipt := by
  obtain ⟨_, rfl⟩ := transfer_eq_ok_iff.1 h
  exact ⟨rfl, rfl⟩

theorem transfer_balance (h : w.transfer source target token n = .ok w') (a : Address) (T : Token) :
    w'.balance a T + (if a = source ∧ T = token then n else 0) =
      w.balance a T + (if a = target ∧ T = token then n else 0) := by
  obtain ⟨⟨covered, _⟩, rfl⟩ := transfer_eq_ok_iff.1 h
  rw [credit, balance_setBalance, balance_setBalance, balance_setBalance]
  by_cases this : T = token
  · subst this
    by_cases gives : a = source <;> by_cases takes : a = target <;> by_cases both : target = source <;>
      simp_all
  · simp [this]

def paid : List Payment → Token → Nat
  | [], _ => 0
  | payment :: rest, T => (if T = payment.token then payment.amount else 0) + paid rest T

theorem paid_cons (payment : Payment) (rest : List Payment) (T : Token) :
    paid (payment :: rest) T = (if T = payment.token then payment.amount else 0) + paid rest T := rfl

theorem transferAll_only (h : w.transferAll source target payments = .ok w') :
    w.TokensOnly w' ∧ w'.receipt = w.receipt := by
  induction payments generalizing w with
  | nil =>
    cases h
    exact ⟨.refl _, rfl⟩
  | cons payment rest ih =>
    obtain ⟨w₁, first, h⟩ := bind_eq_ok_iff.1 h
    obtain ⟨only, receipts⟩ := transfer_only first
    obtain ⟨only', receipts'⟩ := ih h
    exact ⟨only.trans only', receipts'.trans receipts⟩

theorem transferAll_balance (h : w.transferAll source target payments = .ok w') (a : Address) (T : Token) :
    w'.balance a T + (if a = source then paid payments T else 0) =
      w.balance a T + (if a = target then paid payments T else 0) := by
  induction payments generalizing w with
  | nil =>
    cases h
    simp [paid]
  | cons payment rest ih =>
    obtain ⟨w₁, first, h⟩ := bind_eq_ok_iff.1 h
    have one := transfer_balance first a T
    have others := ih h
    rw [ite_and, ite_and] at one
    rw [paid_cons, ite_add_zero, ite_add_zero]
    omega

theorem send_only (h : w.send source target token n = .ok w') : w.TokensOnly w' ∧ w'.receipt = w.receipt := by
  unfold send at h
  split at h
  · cases h
    exact ⟨.refl w, rfl⟩
  · exact transfer_only h

theorem send_balance (h : w.send source target token n = .ok w') (a : Address) (T : Token) :
    w'.balance a T + (if a = source ∧ T = token then n else 0) =
      w.balance a T + (if a = target ∧ T = token then n else 0) := by
  unfold send at h
  split at h
  · next none =>
    cases h
    simp [none]
  · exact transfer_balance h a T

theorem send_succeeds (covered : n ≤ w.balance source token) : ∃ w', w.send source target token n = .ok w' := by
  unfold send
  split
  · exact ⟨w, rfl⟩
  · next some => exact ⟨_, transfer_eq_ok_iff.2 ⟨⟨covered, .inl (by omega)⟩, rfl⟩⟩

end TermLending.World
