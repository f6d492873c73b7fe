import TermLending.Arith.Interest
import TermLending.Proofs.Pool.Acceptance

/-!
# Numbers that have values

A quotient by zero and a difference below zero have no value, and whoever takes one fails. A computation is defined if
it fails for other reasons alone.
-/

namespace TermLending

/-- A difference or a quotient without a value. -/
def Fault.isUndefined : Fault → Bool
  | negativeDifference | divisionByZero => true
  | _ => false

section

variable {α β : Type} {x : Except Fault α} {k : α → Except Fault β} {fault : Fault} {P Q : Prop}

/-- All numbers on the way have values, whatever else may fail. -/
def Defined {α : Type} (x : Except Fault α) : Prop := ∀ fault, x = .error fault → fault.isUndefined = false

theorem bind_eq_error_iff :
    (x >>= k) = .error fault ↔ x = .error fault ∨ ∃ a, x = .ok a ∧ k a = .error fault := by
  cases x with
  | error e => simp [bind, Except.bind]
  | ok a => simp [bind, Except.bind]

def fault? {α : Type} : Except Fault α → Option Fault
  | .error fault => some fault
  | .ok _ => none

theorem fault?_eq_some_iff : fault? x = some fault ↔ x = .error fault := by
  cases x <;> simp [fault?]

theorem Defined.ok (a : α) : Defined (.ok a) := nofun

theorem Defined.pure (a : α) : Defined (pure a : Except Fault α) := nofun

theorem Defined.of_ok {a : α} (h : x = .ok a) : Defined x := h ▸ .ok a

theorem Defined.error (other : fault.isUndefined = false) : Defined (.error fault : Except Fault α) := by
  rintro _ ⟨⟩
  exact other

theorem Defined.bind (first : Defined x) (rest : ∀ a, x = .ok a → Defined (k a)) : Defined (x >>= k) := by
  intro fault failed
  rcases bind_eq_error_iff.1 failed with failed | ⟨a, done, failed⟩
  · exact first fault failed
  · exact rest a done fault failed

theorem Defined.map {f : α → β} (h : Defined x) : Defined (do return f (← x)) := h.bind fun _ _ => .pure _

theorem Defined.demand {p : Prop} [Decidable p] (other : fault.isUndefined = false) : Defined (demand p fault) := by
  by_cases holds : p
  · exact .of_ok (demand_of_true holds)
  · rw [demand_of_false holds]
    exact .error other

/-- What is demanded may be relied on. -/
theorem Defined.given {p : Prop} [Decidable p] {k : Unit → Except Fault β} (other : fault.isUndefined = false)
    (rest : p → Defined (k ())) : Defined (TermLending.demand p fault >>= k) :=
  (Defined.demand other).bind fun _ holds => rest (demand_eq_ok_iff.1 holds)

theorem Defined.ite {p : Prop} [Decidable p] {y : Except Fault α} (yes : p → Defined x) (no : ¬p → Defined y) :
    Defined (if p then x else y) := by
  split
  · next holds => exact yes holds
  · next fails => exact no fails

/-- The only number on the way that may lack a value is a difference, and only if `miscounted`. -/
def DefinedUnless {α : Type} (miscounted : Prop) (x : Except Fault α) : Prop :=
  ∀ fault, x = .error fault → fault.isUndefined = true → fault = .negativeDifference ∧ miscounted

theorem Defined.unless (h : Defined x) (P : Prop) : DefinedUnless P x := by
  intro fault failed undefined
  rw [h fault failed] at undefined
  cases undefined

theorem DefinedUnless.bind (first : DefinedUnless P x) (rest : ∀ a, x = .ok a → DefinedUnless P (k a)) :
    DefinedUnless P (x >>= k) := by
  intro fault failed
  rcases bind_eq_error_iff.1 failed with failed | ⟨a, done, failed⟩
  · exact first fault failed
  · exact rest a done fault failed

theorem DefinedUnless.mono (h : DefinedUnless P x) (weaker : P → Q) : DefinedUnless Q x := by
  intro fault failed undefined
  obtain ⟨difference, miscounted⟩ := h fault failed undefined
  exact ⟨difference, weaker miscounted⟩

end

/-! ### Operations -/

section

variable {a b c : Nat}

theorem difference_defined (h : b ≤ a) : Defined (difference a b) := .of_ok (if_pos h)

theorem mulDiv_defined (h : c ≠ 0) : Defined (mulDiv a b c) := .of_ok (if_neg h)

theorem signed64_defined (n : Nat) : Defined (signed64 n) := .ite (fun _ => .ok n) fun _ => .error rfl

theorem applyBps_defined (amount rate : Nat) : Defined (applyBps amount rate) :=
  (signed64_defined rate).bind fun _ _ => mulDiv_defined (by decide)

/-- A year has seconds at every scale. -/
theorem yearFraction_exists (time : Nat) :
    ∃ fraction, Decimal.divHalfUp ⟨time, 0⟩ ⟨Interest.secondsPerYear, 0⟩ Decimal.wadDecimals = .ok fraction := by
  unfold Decimal.divHalfUp
  exact ⟨_, if_neg (by decide)⟩

theorem interestFactor_defined (rate time : Nat) : Defined (Interest.factor rate time) := by
  refine .ite (fun _ => .ok _) fun _ => ?_
  refine (signed64_defined rate).bind fun _ _ => (signed64_defined time).bind fun _ _ => ?_
  obtain ⟨fraction, divided⟩ := yearFraction_exists _
  exact (Defined.of_ok divided).bind fun _ _ => .pure _

theorem due_defined (principal rate time : Nat) : Defined (Interest.due principal rate time) :=
  (interestFactor_defined rate time).map.map

end

end TermLending
