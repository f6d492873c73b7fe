import TermLending.Fault

/-!
# Computations that end alike

Two computations end alike if both succeed, with results that are related, or both fail for the same reason. Some
faults may be excused: of a pair in which one computation meets such a fault nothing is said, until it is shown that
neither does.
-/

namespace TermLending

variable {α β γ δ : Type} {excused : Fault → Prop} {R R' : α → β → Prop} {S : γ → δ → Prop} {x : Except Fault α}
  {y : Except Fault β} {k : α → Except Fault γ} {l : β → Except Fault δ} {fault : Fault}

inductive Alike {α β : Type} (excused : Fault → Prop) (R : α → β → Prop) : Except Fault α → Except Fault β → Prop where
  | ok {a : α} {b : β} (related : R a b) : Alike excused R (.ok a) (.ok b)
  | error (fault : Fault) : Alike excused R (.error fault) (.error fault)
  | left {fault : Fault} (excuse : excused fault) (y : Except Fault β) : Alike excused R (.error fault) y
  | right {fault : Fault} (excuse : excused fault) (x : Except Fault α) : Alike excused R x (.error fault)

/-- The computation meets none of the faults. -/
def Avoids {α : Type} (excused : Fault → Prop) (x : Except Fault α) : Prop := ∀ fault, x = .error fault → ¬excused fault

namespace Alike

theorem bind_of_ok (first : Alike excused R x y)
    (rest : ∀ a b, x = .ok a → y = .ok b → R a b → Alike excused S (k a) (l b)) :
    Alike excused S (x >>= k) (y >>= l) := by
  cases first with
  | ok related => exact rest _ _ rfl rfl related
  | error fault => exact .error fault
  | left excuse y => exact .left excuse _
  | right excuse x => exact .right excuse _

theorem bind (first : Alike excused R x y) (rest : ∀ a b, R a b → Alike excused S (k a) (l b)) :
    Alike excused S (x >>= k) (y >>= l) :=
  first.bind_of_ok fun a b _ _ related => rest a b related

theorem mono (h : Alike excused R x y) (weaker : ∀ a b, R a b → R' a b) : Alike excused R' x y := by
  cases h with
  | ok related => exact .ok (weaker _ _ related)
  | error fault => exact .error fault
  | left excuse y => exact .left excuse _
  | right excuse x => exact .right excuse _

theorem of_eq {y : Except Fault α} (h : x = y) : Alike excused Eq x y := by
  subst h
  cases x with
  | error fault => exact .error fault
  | ok a => exact .ok rfl

theorem demand {p q : Prop} [Decidable p] [Decidable q] (same : p ↔ q) (fault : Fault) :
    Alike excused (fun _ _ => p) (demand p fault) (demand q fault) := by
  by_cases holds : p
  · rw [demand_of_true holds, demand_of_true (same.1 holds)]
    exact .ok holds
  · rw [demand_of_false holds, demand_of_false (holds ∘ same.2)]
    exact .error fault

/-- Where both computations avoid what is excused, nothing needs an excuse. -/
theorem exact (h : Alike excused R x y) (left : Avoids excused x) (right : Avoids excused y) (other : Fault → Prop) :
    Alike other R x y := by
  cases h with
  | ok related => exact .ok related
  | error fault => exact .error fault
  | left excuse y => exact absurd excuse (left _ rfl)
  | right excuse x => exact absurd excuse (right _ rfl)

theorem ok_or_error (h : Alike (fun _ => False) R x y) :
    (∃ a b, x = .ok a ∧ y = .ok b ∧ R a b) ∨ ∃ fault, x = .error fault ∧ y = .error fault := by
  cases h with
  | ok related => exact .inl ⟨_, _, rfl, rfl, related⟩
  | error fault => exact .inr ⟨fault, rfl, rfl⟩
  | left excuse y => exact excuse.elim
  | right excuse x => exact excuse.elim

theorem of_ok {a : α} {b : β} (h : Alike (fun _ => False) R (.ok a) (.ok b)) : R a b := by
  cases h with
  | ok related => exact related

end Alike

namespace Avoids

theorem ok (a : α) : Avoids excused (.ok a) := nofun

theorem of_ok {a : α} (h : x = .ok a) : Avoids excused x := h ▸ ok a

theorem error (other : ¬excused fault) : Avoids excused (.error fault : Except Fault α) := by
  rintro _ ⟨⟩
  exact other

theorem bind (first : Avoids excused x) (rest : ∀ a, x = .ok a → Avoids excused (k a)) : Avoids excused (x >>= k) := by
  cases x with
  | error fault => exact error (first fault rfl)
  | ok a => exact rest a rfl

theorem demand {p : Prop} [Decidable p] (other : ¬excused fault) : Avoids excused (demand p fault) := by
  by_cases holds : p
  · exact of_ok (demand_of_true holds)
  · rw [demand_of_false holds]
    exact error other

end Avoids

end TermLending
